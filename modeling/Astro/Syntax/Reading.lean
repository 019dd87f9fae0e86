import Astro.Diagnostic.Problem
import Astro.Number.Numeral
import Astro.Syntax
import Astro.Token.Scan

/-!
# Reading programs

Tokens are read by the grammar

    Program   = Statement+
    Statement = name '=' Expression ';' | name '(' Arguments ')' ';'
              | 'print' Expression ';'
    Expression = Term (('+' | '-') Term)*
    Term       = Factor (('*' | '/' | '%') Factor)*
    Factor     = Primary '**' Factor | '-' Primary | Primary
    Primary    = name '(' Arguments ')' | number | name | '(' Expression ')'
    Arguments  = (Expression (',' Expression)*)?

where the dialect decides about `%`, the sign and `print`. Each function reads
one phrase from the front of a token list. It gives the phrase, the place where
its last token ends and the tokens left, or it refuses with one diagnostic at the
token where no phrase can go on. Both answers carry the fact that tokens were used
up, which is all that termination needs.

A refused statement is left behind by dropping tokens through its semicolon, so
that every statement contributes either a tree or a diagnostic.
-/

namespace Astro

/-- What reading a phrase gives. The tokens left number less than `bound` when a
phrase was read, and no more than `bound` when it was refused. -/
inductive Reading (α : Type) (bound : Nat) where
  | read (value : α) (stop : Position) (rest : List Token) (fewer : rest.length < bound)
  | refused (problem : Diagnostic) (rest : List Token) (noMore : rest.length ≤ bound)

namespace Reading

variable {α β : Type}

/-- The same reading with more tokens allowed for. Nothing changes but what is known of the tokens
left. -/
def weaken {bound wider : Nat} (reading : Reading α bound) (within : bound ≤ wider) :
    Reading α wider :=
  match reading with
  | read value stop rest fewer => read value stop rest (Nat.lt_of_lt_of_le fewer within)
  | refused problem rest noMore => refused problem rest (Nat.le_trans noMore within)

/-- The same reading with another tree. A refusal stays as it is. -/
def map {bound : Nat} (f : α → β) : Reading α bound → Reading β bound
  | read value stop rest fewer => read (f value) stop rest fewer
  | refused problem rest noMore => refused problem rest noMore

/-- Read one token of a given kind. Any other token is reported and left to be read, and so is the
end of the list. -/
def token (wanted : Token.Kind) (tokens : List Token) : Reading Token tokens.length :=
  match tokens with
  | [] => refused ((Problem.expected wanted .missing).diagnostic Token.missing.span) [] (Nat.le_refl 0)
  | first :: rest =>
    if first.kind = wanted then read first first.span.stop rest (Nat.lt_succ_self _)
    else refused ((Problem.expected wanted first).diagnostic first.span) (first :: rest) (Nat.le_refl _)

end Reading

namespace Dialect

/-- Whether a token can be used as a name. The reserved word can where printing is a procedure. -/
def isName (dialect : Dialect) (token : Token) : Bool :=
  token.kind = .name || (token.kind = .printWord && dialect.print = .procedure)

/-- Whether a kind is that of an operator between terms. -/
def joinsTerms (kind : Token.Kind) : Bool := kind = .plus || kind = .minus

/-- Whether a kind is that of an operator between factors. -/
def joinsFactors (dialect : Dialect) (kind : Token.Kind) : Bool :=
  kind = .star || kind = .slash || (kind = .percent && dialect.modulo)

end Dialect

/-- Two operands joined by an operator. Its span reaches over both. -/
def Expr.join (op : Token.Kind) (left right : Expr) : Expr :=
  .binary (left.span.join right.span) op left right

namespace Reading

mutual

/-- Read an expression: terms joined from the left. At least one term has to be read. -/
def expression (dialect : Dialect) (tokens : List Token) : Reading Expr tokens.length :=
  match term dialect tokens with
  | .refused problem rest noMore => .refused problem rest noMore
  | .read left stop rest fewer => (moreTerms dialect left stop rest).weaken fewer
termination_by (tokens.length, 4)

/-- Read the terms that are joined to `left`, which ends at `stop`. -/
def moreTerms (dialect : Dialect) (left : Expr) (stop : Position) (tokens : List Token) :
    Reading Expr (tokens.length + 1) :=
  match tokens with
  | [] => .read left stop [] (Nat.lt_succ_self _)
  | op :: rest =>
    if Dialect.joinsTerms op.kind then
      match term dialect rest with
      | .refused problem rest' noMore => .refused problem rest' (by simp only [List.length_cons]; omega)
      | .read right stop' rest' fewer =>
        (moreTerms dialect (Expr.join op.kind left right) stop' rest').weaken
          (by simp only [List.length_cons]; omega)
    else .read left stop (op :: rest) (Nat.lt_succ_self _)
termination_by (tokens.length, 0)
decreasing_by all_goals simp_wf; omega

/-- Read a term: factors joined from the left. At least one factor has to be read. -/
def term (dialect : Dialect) (tokens : List Token) : Reading Expr tokens.length :=
  match factor dialect tokens with
  | .refused problem rest noMore => .refused problem rest noMore
  | .read left stop rest fewer => (moreFactors dialect left stop rest).weaken fewer
termination_by (tokens.length, 3)

/-- Read the factors that are joined to `left`, which ends at `stop`. -/
def moreFactors (dialect : Dialect) (left : Expr) (stop : Position) (tokens : List Token) :
    Reading Expr (tokens.length + 1) :=
  match tokens with
  | [] => .read left stop [] (Nat.lt_succ_self _)
  | op :: rest =>
    if dialect.joinsFactors op.kind then
      match factor dialect rest with
      | .refused problem rest' noMore => .refused problem rest' (by simp only [List.length_cons]; omega)
      | .read right stop' rest' fewer =>
        (moreFactors dialect (Expr.join op.kind left right) stop' rest').weaken
          (by simp only [List.length_cons]; omega)
    else .read left stop (op :: rest) (Nat.lt_succ_self _)
termination_by (tokens.length, 0)
decreasing_by all_goals simp_wf; omega

/-- Read a factor: a negated primary, a power, or a primary. Powers join from the
right, and a negated primary is no base of a power. -/
def factor (dialect : Dialect) (tokens : List Token) : Reading Expr tokens.length :=
  match tokens with
  | [] => primary dialect []
  | first :: rest =>
    if first.kind = .minus then
      if dialect.negation then
        match primary dialect rest with
        | .refused problem rest' noMore => .refused problem rest' (Nat.le_succ_of_le noMore)
        | .read operand stop rest' fewer =>
          .read (.unary ⟨first.span.start, operand.span.stop⟩ .minus operand) stop rest'
            (Nat.lt_succ_of_lt fewer)
      else .refused (Problem.negationDisabled.diagnostic first.span) rest (Nat.le_succ _)
    else
      match primary dialect (first :: rest) with
      | .refused problem rest' noMore => .refused problem rest' noMore
      | .read base stop rest' fewer =>
        match rest' with
        | [] => .read base stop [] fewer
        | op :: rest' =>
          if op.kind = .power then
            match factor dialect rest' with
            | .refused problem rest'' noMore =>
              .refused problem rest'' (by simp only [List.length_cons] at fewer ⊢; omega)
            | .read exponent stop' rest'' fewer' =>
              .read (Expr.join .power base exponent) stop' rest''
                (by simp only [List.length_cons] at fewer ⊢; omega)
          else .read base stop (op :: rest') fewer
termination_by (tokens.length, 2)
decreasing_by
  · simp_wf; omega
  · simp_wf; omega
  · simp_wf; omega
  · simp only [List.length_cons] at fewer
    simp_wf; omega

/-- Read a primary: a number, a name, a call, or an expression in parentheses. -/
def primary (dialect : Dialect) (tokens : List Token) : Reading Expr tokens.length :=
  match tokens with
  | [] =>
    .refused ((Problem.expectedExpression .missing).diagnostic Token.missing.span) [] (Nat.le_refl 0)
  | first :: rest =>
    if first.kind = .number then
      match Number.ofNumeral? first.lexeme with
      | none => .refused ((Problem.malformedNumeral first.lexeme).diagnostic first.span) rest (Nat.le_succ _)
      | some value =>
        .read (.numeral first.span first.lexeme value) first.span.stop rest (Nat.lt_succ_self _)
    else if dialect.isName first then
      let name : Name := ⟨first.span, first.lexeme⟩
      match rest with
      | [] => .read (.name name) first.span.stop [] (Nat.lt_succ_self _)
      | second :: rest =>
        if second.kind = .leftParen then
          ((call dialect name rest).map Call.toExpr).weaken (by simp only [List.length_cons]; omega)
        else .read (.name name) first.span.stop (second :: rest) (Nat.lt_succ_self _)
    else if first.kind = .leftParen then
      match expression dialect rest with
      | .refused problem rest' noMore => .refused problem rest' (Nat.le_succ_of_le noMore)
      | .read value _ rest' fewer =>
        ((token .rightParen rest').map fun _ => value).weaken
          (by simp only [List.length_cons]; omega)
    else .refused ((Problem.expectedExpression first).diagnostic first.span) (first :: rest) (Nat.le_refl _)
termination_by (tokens.length, 1)
decreasing_by all_goals simp_wf; omega

/-- Read the arguments of a call and the parenthesis that closes it; the tokens
start behind the opening one. Without arguments, their span is empty and stands at
the closing parenthesis. -/
def call (dialect : Dialect) (callee : Name) (tokens : List Token) : Reading Call tokens.length :=
  let start := (Token.next tokens).span.start
  match tokens with
  | [] =>
    match arguments dialect [] with
    | .refused problem rest noMore => .refused problem rest noMore
    | .read _ _ _ fewer => absurd fewer (Nat.not_lt_zero _)
  | first :: rest =>
    if first.kind = .rightParen then
      .read ⟨⟨callee.span.start, first.span.stop⟩, callee, [], ⟨start, start⟩⟩ first.span.stop rest
        (Nat.lt_succ_self _)
    else
      match arguments dialect (first :: rest) with
      | .refused problem rest' noMore => .refused problem rest' noMore
      | .read args stop rest' fewer =>
        ((token .rightParen rest').map fun close =>
          ⟨⟨callee.span.start, close.span.stop⟩, callee, args, ⟨start, stop⟩⟩).weaken
          (Nat.le_of_lt fewer)
termination_by (tokens.length, 6)

/-- Read at least one expression, and more of them after commas. -/
def arguments (dialect : Dialect) (tokens : List Token) : Reading (List Expr) tokens.length :=
  match expression dialect tokens with
  | .refused problem rest noMore => .refused problem rest noMore
  | .read first stop rest fewer =>
    match rest with
    | [] => .read [first] stop [] fewer
    | separator :: rest' =>
      if separator.kind = .comma then
        ((arguments dialect rest').map (first :: ·)).weaken
          (by simp only [List.length_cons] at fewer; omega)
      else .read [first] stop (separator :: rest') fewer
termination_by (tokens.length, 5)
decreasing_by
  · omega
  · simp only [List.length_cons] at fewer
    omega

end

/-- Drop tokens through the next semicolon, but not past the end of the input. -/
def recover : List Token → List Token
  | [] => []
  | first :: rest =>
    if first.kind = .endOfInput then first :: rest
    else if first.kind = .semicolon then rest
    else recover rest

/-- Recovery adds no tokens. -/
theorem length_recover_le (tokens : List Token) : (recover tokens).length ≤ tokens.length := by
  induction tokens with
  | nil => exact Nat.le_refl _
  | cons first rest shorter =>
    unfold recover
    split
    · exact Nat.le_refl _
    · split
      · exact Nat.le_succ _
      · exact Nat.le_succ_of_le shorter

/-- Recovery drops at least one token, unless it stands at the end of the input. -/
theorem length_recover_lt (first : Token) (rest : List Token) (going : first.kind ≠ .endOfInput) :
    (recover (first :: rest)).length < (first :: rest).length := by
  unfold recover
  rw [if_neg going]
  split
  · exact Nat.lt_succ_self _
  · exact Nat.lt_succ_of_le (length_recover_le rest)

/-- Read the semicolon behind what has been read, and put a statement together
from it. The statement's span starts at `start` and ends with its semicolon. -/
def terminated {α : Type} {bound : Nat} (start : Position) (build : Span → α → Stmt)
    (reading : Reading α bound) : Reading Stmt bound :=
  match reading with
  | .refused problem rest noMore => .refused problem rest noMore
  | .read value _ rest fewer =>
    ((token .semicolon rest).map fun close => build ⟨start, close.span.stop⟩ value).weaken
      (Nat.le_of_lt fewer)

/-- Read the rest of a statement that starts with a name. -/
def afterName (dialect : Dialect) (name : Name) (tokens : List Token) :
    Reading Stmt tokens.length :=
  match tokens with
  | [] =>
    .refused ((Problem.expectedAssignOrCall name.text .missing).diagnostic Token.missing.span) []
      (Nat.le_refl 0)
  | first :: rest =>
    if first.kind = .assign then
      (terminated name.span.start (fun span value => .assign span name value)
        (expression dialect rest)).weaken (Nat.le_succ _)
    else if first.kind = .leftParen then
      (terminated name.span.start (fun span call => .call span call)
        (call dialect name rest)).weaken (Nat.le_succ _)
    else
      .refused ((Problem.expectedAssignOrCall name.text first).diagnostic first.span) (first :: rest)
        (Nat.le_refl _)

/-- The tree or the diagnostic of a statement, and the tokens behind it. A
statement that was refused is left behind through its semicolon. -/
def settle {bound : Nat} :
    Reading Stmt bound → Except Diagnostic Stmt × { left : List Token // left.length ≤ bound }
  | read value _ rest fewer => (.ok value, ⟨rest, Nat.le_of_lt fewer⟩)
  | refused problem rest noMore =>
    (.error problem, ⟨recover rest, Nat.le_trans (length_recover_le rest) noMore⟩)

/-- Read the statement that starts with the token `first`, which does not end the
input. Whatever comes of it, that token is used up. -/
def statement (dialect : Dialect) (first : Token) (rest : List Token)
    (going : first.kind ≠ .endOfInput) :
    Except Diagnostic Stmt × { left : List Token // left.length ≤ rest.length } :=
  if first.kind = .printWord ∧ dialect.print = .keyword then
    settle (terminated first.span.start (fun span value => .print span value)
      (expression dialect rest))
  else if dialect.isName first then settle (afterName dialect ⟨first.span, first.lexeme⟩ rest)
  else
    (.error ((Problem.expectedStatement first).diagnostic first.span),
      ⟨recover (first :: rest), Nat.le_of_lt_succ (length_recover_lt first rest going)⟩)

end Reading

end Astro
