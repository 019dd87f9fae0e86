import Astro.Session

/-!
# Moving programs to other places

The places in tokens, trees, diagnostics and failures are carried along and
reported, but little depends on them. To say so, everything that has places can
be moved by a function on positions. Moving everything to the same place leaves
the shape of a program, and moving everything by the same distance is what
happens to a text when another one is put before it.

The one operation that compares places is the join of two spans. A move is
regular when it respects that; constant moves and shifts are.
-/

namespace Astro

variable (move : Position → Position)

/-- A span with both ends moved. The two are moved independently of each other. -/
def Span.relocate (span : Span) : Span := ⟨move span.start, move span.stop⟩

/-- An occurrence of a name at another place. It is spelled as before. -/
def Name.relocate (name : Name) : Name := ⟨name.span.relocate move, name.text⟩

/-- A token at another place. Its kind and its lexeme stay. -/
def Token.relocate (token : Token) : Token := ⟨token.kind, token.lexeme, token.span.relocate move⟩

/-- A diagnostic about another place. Its code and its words stay. -/
def Diagnostic.relocate (diagnostic : Diagnostic) : Diagnostic :=
  ⟨diagnostic.code, diagnostic.message, diagnostic.span.relocate move, diagnostic.hint⟩

mutual

/-- An expression at another place. All spans in it are moved. -/
def Expr.relocate : Expr → Expr
  | .name occurrence => .name (occurrence.relocate move)
  | .numeral span raw value => .numeral (span.relocate move) raw value
  | .unary span op operand => .unary (span.relocate move) op operand.relocate
  | .binary span op left right => .binary (span.relocate move) op left.relocate right.relocate
  | .call span callee args argsSpan =>
    .call (span.relocate move) (callee.relocate move) (Expr.relocateAll args)
      (argsSpan.relocate move)
  | .foreign span typeName => .foreign (span.relocate move) typeName

/-- Expressions at other places. Each is moved by itself. -/
def Expr.relocateAll : List Expr → List Expr
  | [] => []
  | first :: rest => first.relocate :: Expr.relocateAll rest

end

/-- A call at another place. The stretch of its arguments is moved with it. -/
def Call.relocate (call : Call) : Call :=
  ⟨call.span.relocate move, call.callee.relocate move, Expr.relocateAll move call.args,
    call.argsSpan.relocate move⟩

/-- A statement at another place. All spans in it are moved. -/
def Stmt.relocate : Stmt → Stmt
  | .assign span target value =>
    .assign (span.relocate move) (target.relocate move) (value.relocate move)
  | .call span called => .call (span.relocate move) (called.relocate move)
  | .print span value => .print (span.relocate move) (value.relocate move)
  | .foreign span typeName => .foreign (span.relocate move) typeName

/-- A failure that points to another place, if it points to any. -/
def Failure.relocate : Failure → Failure
  | .notAProgram diagnostic => .notAProgram (diagnostic.relocate move)
  | .checkFailed fault => .checkFailed ⟨fault.kind, fault.message, fault.span.relocate move⟩
  | .unknownOperator place op => .unknownOperator (move place) op
  | .foreignStatement place typeName => .foreignStatement (move place) typeName
  | .foreignExpression place typeName => .foreignExpression (move place) typeName
  | .refusedWrite message => .refusedWrite message
  | .procedure message => .procedure message

/-- What is left of a statement when its places are set aside. -/
def Stmt.shape (stmt : Stmt) : Stmt := stmt.relocate fun _ => .nowhere

/-- A move that respects the join of two spans. -/
def Regular : Prop :=
  ∀ first second : Span,
    (first.join second).relocate move = (first.relocate move).join (second.relocate move)

end Astro
