import Astro.Diagnostic
import Astro.Json
import Astro.Syntax

/-!
# Programs, tokens and diagnostics as JSON

Every node of a program becomes an object with its kind, its span and its parts;
only the span of a call's arguments is left out. The fields of an object are in
alphabetical order, but those of a token are in the order in which a token is
read.
-/

namespace Astro

/-- A place as JSON. Its fields are sorted by their keys, like those of all nodes. -/
def Position.toJson (position : Position) : Json :=
  .object [("column", .integer position.column), ("line", .integer position.line),
    ("offset", .integer position.offset)]

/-- A span as JSON. Both ends are shown in full. -/
def Span.toJson (span : Span) : Json :=
  .object [("end", span.stop.toJson), ("start", span.start.toJson)]

/-- A name as JSON. It is a node wherever it occurs, also as a target or a callee. -/
def Name.toJson (name : Name) : Json :=
  .object [("kind", .string (Text.ofString "IdentExpr")), ("name", .string name.text),
    ("span", name.span.toJson)]

/-- A node of a foreign type as JSON: nothing of it is known. -/
def Json.unknownNode : Json := .object [("kind", .string (Text.ofString "Unknown"))]

mutual

/-- An expression as JSON. Every node has its kind and its span. The stretch of the arguments of a
call is not shown. -/
def Expr.toJson : Expr → Json
  | .name occurrence => occurrence.toJson
  | .numeral span raw value =>
    .object [("kind", .string (Text.ofString "NumberLiteral")), ("raw", .string raw),
      ("span", span.toJson), ("value", .number value)]
  | .unary span op operand =>
    .object [("kind", .string (Text.ofString "UnaryExpr")), ("op", .string op.text),
      ("operand", operand.toJson), ("span", span.toJson)]
  | .binary span op left right =>
    .object [("kind", .string (Text.ofString "BinaryExpr")), ("left", left.toJson),
      ("op", .string op.text), ("right", right.toJson), ("span", span.toJson)]
  | .call span callee args _ =>
    .object [("args", .array (Expr.toJsonAll args)), ("callee", callee.toJson),
      ("kind", .string (Text.ofString "CallExpr")), ("span", span.toJson)]
  | .foreign _ _ => Json.unknownNode

/-- Expressions as JSON. They are in the order in which they are written. -/
def Expr.toJsonAll : List Expr → List Json
  | [] => []
  | first :: rest => first.toJson :: Expr.toJsonAll rest

end

/-- A statement as JSON. Every node has its kind and its span, next to its parts. -/
def Stmt.toJson : Stmt → Json
  | .assign span target value =>
    .object [("kind", .string (Text.ofString "AssignStmt")), ("span", span.toJson),
      ("target", target.toJson), ("value", value.toJson)]
  | .call span called =>
    .object [("call", called.toExpr.toJson), ("kind", .string (Text.ofString "CallStmt")),
      ("span", span.toJson)]
  | .print span value =>
    .object [("kind", .string (Text.ofString "PrintStmt")), ("span", span.toJson),
      ("value", value.toJson)]
  | .foreign _ _ => Json.unknownNode

/-- A program as JSON. Its body is the list of its statements. -/
def Program.toJson (program : Program) : Json :=
  .object [("body", .array (program.body.map Stmt.toJson)),
    ("kind", .string (Text.ofString "File")), ("span", program.span.toJson)]

/-- A token as JSON. Of its span only the start is shown. -/
def Token.toJson (token : Token) : Json :=
  .object [("kind", .string token.kind.text), ("lexeme", .string token.lexeme),
    ("line", .integer token.span.start.line), ("column", .integer token.span.start.column),
    ("offset", .integer token.span.start.offset)]

/-- A diagnostic as JSON. A hint is a field only when there is one. -/
def Diagnostic.toJson (diagnostic : Diagnostic) : Json :=
  let hint :=
    match diagnostic.hint with
    | none => []
    | some hint => [("hint", Json.string hint)]
  .object ([("code", .string diagnostic.code), ("column", .integer diagnostic.span.start.column)] ++
    hint ++
    [("line", .integer diagnostic.span.start.line), ("message", .string diagnostic.message),
      ("offset", .integer diagnostic.span.start.offset)])

end Astro
