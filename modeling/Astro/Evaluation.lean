import Astro.Failure
import Astro.Syntax
import Astro.Table

/-!
# Evaluating expressions and checking statements

The value of an expression depends on the table alone and changes nothing.
Operands are evaluated before an operator, arguments from left to right before
the callee is looked at, and the first check that fails decides the failure.

A statement is checked in the same way. What it then does is an action: it
defines a name, or it writes.
-/

namespace Astro

/-- The operation that a kind of token denotes between two operands. -/
def operation? : Token.Kind → Option (Float → Float → Float)
  | .plus => some (· + ·)
  | .minus => some (· - ·)
  | .star => some (· * ·)
  | .slash => some (· / ·)
  | .percent => some Number.remainder
  | .power => some Number.power
  | _ => none

namespace Table

/-- The binding of a name that occurs in a program. -/
def resolve (table : Table) (name : Name) : Except Failure Binding :=
  match table.lookup? name.text with
  | some binding => .ok binding
  | none => .error (Fault.Cause.failure (.undefined name.text) name.span)

/-- The number that a name stands for. An unbound name and a routine are reported at the name. -/
def valueOf (table : Table) (name : Name) : Except Failure Float := do
  match ← table.resolve name with
  | .number value _ => .ok value
  | _ => .error (Fault.Cause.numberExpected.failure name.span)

/-- The result of calling a function by name. The name is checked before the number of arguments,
and that is reported at the arguments. -/
def applyFunction (table : Table) (callee : Name) (args : List Float) (argsSpan : Span) :
    Except Failure Float := do
  match ← table.resolve callee with
  | .function routine =>
    match fitArguments? routine.arity args with
    | some fitting => .ok (routine.apply fitting)
    | none => .error (Fault.Cause.argumentCount.failure argsSpan)
  | _ => .error (Fault.Cause.functionExpected.failure callee.span)

/-- What calling a procedure by name does. The name is checked before the number of arguments, as
it is for functions. Nothing is performed yet. -/
def performProcedure (table : Table) (callee : Name) (args : List Float) (argsSpan : Span) :
    Except Failure Performance := do
  match ← table.resolve callee with
  | .procedure routine =>
    match fitArguments? routine.arity args with
    | some fitting => .ok (routine.perform fitting)
    | none => .error (Fault.Cause.argumentCount.failure argsSpan)
  | _ => .error (Fault.Cause.procedureExpected.failure callee.span)

/-- Check that a name can be assigned to: it is new, or a number that can be
changed. -/
def checkAssignable (table : Table) (target : Name) : Except Failure Unit :=
  match table.lookup? target.text with
  | none => .ok ()
  | some (.number _ true) => .ok ()
  | some (.number _ false) =>
    .error (Fault.Cause.failure (.notWritable target.text) target.span)
  | some _ => .error (Fault.Cause.cannotAssign.failure target.span)

end Table

mutual

/-- The value of an expression. A sign negates whatever kind of token it is. -/
def Expr.evaluate (table : Table) : Expr → Except Failure Float
  | .numeral _ _ value => .ok value
  | .name occurrence => table.valueOf occurrence
  | .unary _ _ operand => do
    let value ← operand.evaluate table
    .ok (-value)
  | .binary span op left right => do
    let first ← left.evaluate table
    let second ← right.evaluate table
    match operation? op with
    | some operation => .ok (operation first second)
    | none => .error (.unknownOperator span.start op)
  | .call _ callee args argsSpan => do
    let values ← Expr.evaluateAll table args
    table.applyFunction callee values argsSpan
  | .foreign span typeName => .error (.foreignExpression span.start typeName)

/-- The values of expressions, from left to right. The first that fails is the failure of all. -/
def Expr.evaluateAll (table : Table) : List Expr → Except Failure (List Float)
  | [] => .ok []
  | first :: rest => do
    let value ← first.evaluate table
    let values ← Expr.evaluateAll table rest
    .ok (value :: values)

end

/-- What a statement does once all its checks have passed. -/
inductive Action where
  /-- Bind a name to a number that can be changed later. -/
  | define (name : Text) (value : Float)
  /-- Write, and perhaps fail. -/
  | perform (performance : Performance)

/-- What a statement does, or the first of its checks that fails. -/
def Stmt.action (table : Table) : Stmt → Except Failure Action
  | .assign _ target value => do
    let result ← value.evaluate table
    table.checkAssignable target
    .ok (.define target.text result)
  | .call _ called => do
    let values ← Expr.evaluateAll table called.args
    let performance ← table.performProcedure called.callee values called.argsSpan
    .ok (.perform performance)
  | .print _ value => do
    let result ← value.evaluate table
    .ok (.perform (.script [Table.printedLine result] none))
  | .foreign span typeName => .error (.foreignStatement span.start typeName)

end Astro
