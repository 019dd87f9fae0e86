import Astro.Syntax.Reading

/-!
# Programs from tokens and from text

A program is read statement by statement up to the first token that ends the
input. Every statement gives a tree or a diagnostic, in order; one that is
refused does not keep the next from being read. A text with illegal characters
is not read any further: its diagnostics are about those characters.
-/

namespace Astro

namespace Reading

/-- What the statements of a token list give, in order. -/
def statements (dialect : Dialect) (tokens : List Token) : List (Except Diagnostic Stmt) :=
  match tokens with
  | [] => []
  | first :: rest =>
    if going : first.kind = .endOfInput then []
    else
      let (outcome, left) := statement dialect first rest going
      outcome :: statements dialect left.val
termination_by tokens.length
decreasing_by exact Nat.lt_succ_of_le left.property

/-- The trees among what statements give. They are in the order of the statements. -/
def trees (outcomes : List (Except Diagnostic Stmt)) : List Stmt :=
  outcomes.filterMap Except.toOption

/-- The diagnostics among what statements give. There is one for each statement that was refused,
in their order. -/
def diagnostics (outcomes : List (Except Diagnostic Stmt)) : List Diagnostic :=
  outcomes.filterMap fun outcome =>
    match outcome with
    | .error diagnostic => some diagnostic
    | .ok _ => none

end Reading

namespace Token

/-- The token that ends the input of a list. If there is none in the list, one is made up. -/
def ending (tokens : List Token) : Token :=
  (tokens.find? fun token => token.kind = .endOfInput).getD missing

end Token

namespace Program

/-- The program that tokens spell, and what is wrong with it. -/
def ofTokens (dialect : Dialect) (tokens : List Token) : Program × List Diagnostic :=
  let first := Token.next tokens
  let outcomes := Reading.statements dialect tokens
  let program : Program :=
    ⟨⟨first.span.start, (Token.ending tokens).span.stop⟩, Reading.trees outcomes⟩
  if first.kind = .endOfInput then (program, [Problem.emptyProgram.diagnostic first.span])
  else (program, Reading.diagnostics outcomes)

/-- The program that a text spells, and what is wrong with it. There is no program
when characters are illegal. -/
def ofText (dialect : Dialect) (text : Text) : Option Program × List Diagnostic :=
  let tokens := Token.ofText text
  match Token.problems tokens with
  | [] =>
    let (program, diagnostics) := ofTokens dialect tokens
    (some program, diagnostics)
  | problems => (none, problems)

end Program

mutual

/-- The calls in an expression: each before those in its arguments, and those on
the left before those on the right. -/
def Expr.calls : Expr → List Call
  | .name _ => []
  | .numeral _ _ _ => []
  | .unary _ _ operand => operand.calls
  | .binary _ _ left right => left.calls ++ right.calls
  | .call span callee args argsSpan => ⟨span, callee, args, argsSpan⟩ :: Expr.callsOf args
  | .foreign _ _ => []

/-- The calls in a list of expressions. Those in the arguments of a call stand among them. -/
def Expr.callsOf : List Expr → List Call
  | [] => []
  | first :: rest => first.calls ++ Expr.callsOf rest

end

/-- The calls in a statement. A statement that calls a procedure is one of them itself. -/
def Stmt.calls : Stmt → List Call
  | .assign _ _ value => value.calls
  | .call _ called => called.toExpr.calls
  | .print _ value => value.calls
  | .foreign _ _ => []

/-- The calls in a program, in the order in which they are written. -/
def Program.calls (program : Program) : List Call := program.body.flatMap Stmt.calls

end Astro
