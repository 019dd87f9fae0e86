import Astro.Dialect
import Astro.Token

/-!
# Programs as trees

A program is a list of statements over expressions. Every node knows the span it
was read from. Parentheses leave no trace in the tree. A call also keeps the
span of its arguments, to point at when their number is wrong.

A tree may be put together elsewhere: operators are token kinds, of which only
some denote an operation, and a node may be of a foreign type that is known by
its name alone.
-/

namespace Astro

/-- An occurrence of a name. Two occurrences of one name differ in their spans. -/
structure Name where
  span : Span
  text : Text
deriving DecidableEq, Repr

/-- An expression. A node that is none of the language's own is foreign, and only its type is
known. -/
inductive Expr where
  | name (occurrence : Name)
  | numeral (span : Span) (raw : Text) (value : Float)
  | unary (span : Span) (op : Token.Kind) (operand : Expr)
  | binary (span : Span) (op : Token.Kind) (left right : Expr)
  | call (span : Span) (callee : Name) (args : List Expr) (argsSpan : Span)
  | foreign (span : Span) (typeName : Text)

/-- The span that an expression was read from. Parentheses around an expression do not belong to
it. -/
def Expr.span : Expr → Span
  | .name occurrence => occurrence.span
  | .numeral span _ _ => span
  | .unary span _ _ => span
  | .binary span _ _ _ => span
  | .call span _ _ _ => span
  | .foreign span _ => span

/-- A call of a name with arguments. The stretch of its arguments is kept apart from its own span,
since their number is reported there. -/
structure Call where
  span : Span
  callee : Name
  args : List Expr
  argsSpan : Span

/-- A call as an expression. Calls stand among expressions, and one may be a statement. -/
def Call.toExpr (call : Call) : Expr := .call call.span call.callee call.args call.argsSpan

/-- A statement. A call may be one by itself, and its callee has to be a procedure when it runs. A
foreign one is none of the language's own. -/
inductive Stmt where
  | assign (span : Span) (target : Name) (value : Expr)
  | call (span : Span) (call : Call)
  | print (span : Span) (value : Expr)
  | foreign (span : Span) (typeName : Text)

/-- The span that a statement was read from, its semicolon included. -/
def Stmt.span : Stmt → Span
  | .assign span _ _ => span
  | .call span _ => span
  | .print span _ => span
  | .foreign span _ => span

/-- A program: its statements, and the span from its first token to its end. -/
structure Program where
  span : Span
  body : List Stmt

end Astro
