import Astro.Syntax.Program

/-!
# The grammar of programs

Phrases are given by derivations over lists of tokens. Sums and products are
left-recursive, powers are right-recursive, and nothing is said about how a
phrase is found: there is no lookahead, no order of alternatives and no failure.
The dialect decides about the remainder operator, the sign and the word `print`.

A derivation carries the tree of its phrase, with the spans that its tokens give
to it. Trees that differ in their spans alone have the same shape (`Stmt.shape`
in `Astro.Proofs.Relocation`).
-/

namespace Astro

/-- Where the last of some tokens ends; `before` when there is none. -/
def Token.lastStop (before : Position) (tokens : List Token) : Position :=
  tokens.foldl (fun _ token => token.span.stop) before

/-- A token as an occurrence of a name. It has the token's spelling and its span. -/
def Name.ofToken (token : Token) : Name := ⟨token.span, token.lexeme⟩

/-- The call of a name with the arguments that the tokens `within` spell, up to
the parenthesis `close`. Without arguments their span is empty, and stands at
that parenthesis. -/
def Call.between (callee : Name) (within : List Token) (close : Token) (args : List Expr) : Call :=
  let start := (Token.next (within ++ [close])).span.start
  ⟨⟨callee.span.start, close.span.stop⟩, callee, args, ⟨start, Token.lastStop start within⟩⟩

namespace Grammar

/-- A name is a word that is not reserved. Where `print` is a procedure, it is a
name like any other. -/
def IsName (dialect : Dialect) (token : Token) : Prop :=
  token.kind = .name ∨ token.kind = .printWord ∧ dialect.print = .procedure

/-- The operators between the terms of a sum. They are the same in all dialects. -/
def JoinsTerms (op : Token) : Prop := op.kind = .plus ∨ op.kind = .minus

/-- The operators between the factors of a product. The remainder is one only where the dialect
has it. -/
def JoinsFactors (dialect : Dialect) (op : Token) : Prop :=
  op.kind = .star ∨ op.kind = .slash ∨ op.kind = .percent ∧ dialect.modulo = true

mutual

/-- `Expression = Expression ('+' | '-') Term | Term` Sums lean to the left, and their operands
are terms. -/
inductive Expression (dialect : Dialect) : List Token → Expr → Prop where
  | term {tokens : List Token} {tree : Expr} (only : Term dialect tokens tree) :
      Expression dialect tokens tree
  | sum {first last : List Token} {op : Token} {left right : Expr}
      (before : Expression dialect first left) (joins : JoinsTerms op)
      (behind : Term dialect last right) :
      Expression dialect (first ++ op :: last) (Expr.join op.kind left right)

/-- `Term = Term ('*' | '/' | '%') Factor | Factor` -/
inductive Term (dialect : Dialect) : List Token → Expr → Prop where
  | factor {tokens : List Token} {tree : Expr} (only : Factor dialect tokens tree) :
      Term dialect tokens tree
  | product {first last : List Token} {op : Token} {left right : Expr}
      (before : Term dialect first left) (joins : JoinsFactors dialect op)
      (behind : Factor dialect last right) :
      Term dialect (first ++ op :: last) (Expr.join op.kind left right)

/-- `Factor = Primary '**' Factor | '-' Primary | Primary` -/
inductive Factor (dialect : Dialect) : List Token → Expr → Prop where
  | power {first last : List Token} {op : Token} {base exponent : Expr}
      (before : Primary dialect first base) (joins : op.kind = .power)
      (behind : Factor dialect last exponent) :
      Factor dialect (first ++ op :: last) (Expr.join .power base exponent)
  | negation {sign : Token} {tokens : List Token} {operand : Expr}
      (enabled : dialect.negation = true) (minus : sign.kind = .minus)
      (behind : Primary dialect tokens operand) :
      Factor dialect (sign :: tokens)
        (.unary ⟨sign.span.start, operand.span.stop⟩ .minus operand)
  | primary {tokens : List Token} {tree : Expr} (only : Primary dialect tokens tree) :
      Factor dialect tokens tree

/-- `Primary = name '(' Arguments ')' | number | name | '(' Expression ')'` -/
inductive Primary (dialect : Dialect) : List Token → Expr → Prop where
  | call {name opening closing : Token} {within : List Token} {args : List Expr}
      (named : IsName dialect name) (opens : opening.kind = .leftParen)
      (listed : Arguments dialect within args) (closes : closing.kind = .rightParen) :
      Primary dialect (name :: opening :: (within ++ [closing]))
        (Call.between (Name.ofToken name) within closing args).toExpr
  | number {token : Token} {value : Float} (numeric : token.kind = .number)
      (denotes : Number.ofNumeral? token.lexeme = some value) :
      Primary dialect [token] (.numeral token.span token.lexeme value)
  | name {token : Token} (named : IsName dialect token) :
      Primary dialect [token] (.name (Name.ofToken token))
  | group {opening closing : Token} {within : List Token} {tree : Expr}
      (opens : opening.kind = .leftParen) (grouped : Expression dialect within tree)
      (closes : closing.kind = .rightParen) :
      Primary dialect (opening :: (within ++ [closing])) tree

/-- `Arguments = (Expression (',' Expression)*)?` No comma stands before the first one or behind
the last one. -/
inductive Arguments (dialect : Dialect) : List Token → List Expr → Prop where
  | none : Arguments dialect [] []
  | some {tokens : List Token} {args : List Expr} (listed : ArgumentList dialect tokens args) :
      Arguments dialect tokens args

/-- Arguments, of which there is at least one. Commas stand between them, and each is an
expression. -/
inductive ArgumentList (dialect : Dialect) : List Token → List Expr → Prop where
  | last {tokens : List Token} {tree : Expr} (only : Expression dialect tokens tree) :
      ArgumentList dialect tokens [tree]
  | more {first rest : List Token} {comma : Token} {tree : Expr} {args : List Expr}
      (before : Expression dialect first tree) (separates : comma.kind = .comma)
      (behind : ArgumentList dialect rest args) :
      ArgumentList dialect (first ++ comma :: rest) (tree :: args)

end

/-- `Statement = name '=' Expression ';' | name '(' Arguments ')' ';' |
'print' Expression ';'`, the last one only where `print` is a keyword. The span of
a statement reaches from its first token to its semicolon. -/
inductive Statement (dialect : Dialect) : List Token → Stmt → Prop where
  | assign {name sign ending : Token} {within : List Token} {value : Expr}
      (named : IsName dialect name) (assigns : sign.kind = .assign)
      (assigned : Expression dialect within value) (ends : ending.kind = .semicolon) :
      Statement dialect (name :: sign :: (within ++ [ending]))
        (.assign ⟨name.span.start, ending.span.stop⟩ (Name.ofToken name) value)
  | call {name opening closing ending : Token} {within : List Token} {args : List Expr}
      (named : IsName dialect name) (opens : opening.kind = .leftParen)
      (listed : Arguments dialect within args) (closes : closing.kind = .rightParen)
      (ends : ending.kind = .semicolon) :
      Statement dialect (name :: opening :: (within ++ [closing] ++ [ending]))
        (.call ⟨name.span.start, ending.span.stop⟩
          (Call.between (Name.ofToken name) within closing args))
  | print {word ending : Token} {within : List Token} {value : Expr}
      (keyword : dialect.print = .keyword) (prints : word.kind = .printWord)
      (printed : Expression dialect within value) (ends : ending.kind = .semicolon) :
      Statement dialect (word :: (within ++ [ending]))
        (.print ⟨word.span.start, ending.span.stop⟩ value)

/-- `Program = Statement+` A program is not empty, and nothing stands between its statements. -/
inductive Body (dialect : Dialect) : List Token → List Stmt → Prop where
  | last {tokens : List Token} {stmt : Stmt} (only : Statement dialect tokens stmt) :
      Body dialect tokens [stmt]
  | more {first rest : List Token} {stmt : Stmt} {body : List Stmt}
      (before : Statement dialect first stmt) (behind : Body dialect rest body) :
      Body dialect (first ++ rest) (stmt :: body)

end Grammar

end Astro
