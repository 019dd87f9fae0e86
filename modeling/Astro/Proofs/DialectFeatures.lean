import Astro.Proofs.Parsing

/-!
# What the features of a dialect decide

A dialect may lack the remainder operator, and it may lack the sign. Each of these features
decides about one construct and about nothing else. What is read with fewer features is read
with more of them, as the same program with the same spans. What is read with more features
is read with fewer exactly when it does without those that are missing.

Which constructs a program uses is seen from its tree alone, node by node. Parentheses leave
no node, so that it does not matter how deep a construct stands.
-/

namespace Astro

mutual

/-- An expression, and all expressions inside it. It stands before those inside it. -/
def Expr.nodes : Expr → List Expr
  | .name occurrence => [.name occurrence]
  | .numeral span raw value => [.numeral span raw value]
  | .unary span op operand => .unary span op operand :: operand.nodes
  | .binary span op left right => .binary span op left right :: (left.nodes ++ right.nodes)
  | .call span callee args argsSpan => .call span callee args argsSpan :: Expr.nodesOf args
  | .foreign span typeName => [.foreign span typeName]

/-- Some expressions, and all expressions inside them. They are in the order in which they are
written. -/
def Expr.nodesOf : List Expr → List Expr
  | [] => []
  | first :: rest => first.nodes ++ Expr.nodesOf rest

end

/-- The expressions in a statement. The target of an assignment is one of them, and so is the call
that is a statement by itself. -/
def Stmt.nodes : Stmt → List Expr
  | .assign _ target value => .name target :: value.nodes
  | .call _ called => called.toExpr.nodes
  | .print _ value => value.nodes
  | .foreign _ _ => []

/-- The expressions in a program. They are asked for the features of the dialect that they make
use of. -/
def Program.nodes (program : Program) : List Expr := program.body.flatMap Stmt.nodes

/-- Whether an expression is a remainder of its operands. -/
def Expr.isRemainder : Expr → Bool
  | .binary _ op _ _ => op = .percent
  | _ => false

/-- Whether an expression is a sign with its operand. -/
def Expr.isSigned : Expr → Bool
  | .unary _ _ _ => true
  | _ => false

/-- A dialect has the features for some expressions, not looking inside them. -/
def Dialect.Permits (dialect : Dialect) (nodes : List Expr) : Prop :=
  ∀ node ∈ nodes, (node.isRemainder = true → dialect.modulo = true) ∧
    (node.isSigned = true → dialect.negation = true)

namespace Dialect.Permits

variable {dialect : Dialect} {first rest : List Expr} {node : Expr}

/-- A dialect has the features for the expressions of two lists exactly when it has those for each
list. -/
theorem append_iff :
    dialect.Permits (first ++ rest) ↔ dialect.Permits first ∧ dialect.Permits rest :=
  List.forall_mem_append

/-- An expression that is neither a remainder nor signed needs no feature, so that only the others
count. -/
theorem cons_plain (whole : node.isRemainder = false) (unsigned : node.isSigned = false) :
    dialect.Permits (node :: rest) ↔ dialect.Permits rest := by
  simp [Permits, whole, unsigned]

/-- Operands that are joined need the feature of their operator, which only the remainder has, and
what they need themselves. -/
theorem join_iff {op : Token.Kind} {left right : Expr} :
    dialect.Permits (Expr.join op left right).nodes ↔
      (op = .percent → dialect.modulo = true) ∧
        dialect.Permits left.nodes ∧ dialect.Permits right.nodes := by
  rw [← append_iff]
  simp [Permits, Expr.join, Expr.nodes, Expr.isRemainder, Expr.isSigned]

/-- An operand with a sign needs the feature for that. -/
theorem signed_iff {span : Span} {op : Token.Kind} {operand : Expr} :
    dialect.Permits (Expr.unary span op operand).nodes ↔
      dialect.negation = true ∧ dialect.Permits operand.nodes := by
  simp [Permits, Expr.nodes, Expr.isRemainder, Expr.isSigned]

/-- A call needs what its arguments need. The call itself uses no feature that a dialect may lack.
-/
theorem call_iff {call : Call} :
    dialect.Permits call.toExpr.nodes ↔ dialect.Permits (Expr.nodesOf call.args) := by
  rw [Call.toExpr, Expr.nodes]
  exact cons_plain rfl rfl

/-- A dialect with more features has those for more expressions. -/
theorem more {other : Dialect} (permits : dialect.Permits rest)
    (modulo : dialect.modulo = true → other.modulo = true)
    (negation : dialect.negation = true → other.negation = true) : other.Permits rest := by
  intro node member
  obtain ⟨remainder, signed⟩ := permits node member
  exact ⟨modulo ∘ remainder, negation ∘ signed⟩

end Dialect.Permits

namespace Grammar

open Dialect

section Features

variable {dialect : Dialect}

mutual

/-- A dialect has the features that its expressions need.

Proof: induction on derivations, with one lemma for each form of phrase. Only the rules for the
remainder and for the sign ask for a feature, and those are what the tree shows. -/
theorem Expression.permitted {tokens : List Token} {tree : Expr}
    (derived : Expression dialect tokens tree) : dialect.Permits tree.nodes := by
  match derived with
  | .term only => exact only.permitted
  | .sum before joins behind =>
    refine Permits.join_iff.mpr ⟨fun percent => ?_, before.permitted, behind.permitted⟩
    rcases joins with plus | minus
    · cases plus.symm.trans percent
    · cases minus.symm.trans percent

/-- A dialect has the features that its terms need, the remainder among them. -/
theorem Term.permitted {tokens : List Token} {tree : Expr}
    (derived : Term dialect tokens tree) : dialect.Permits tree.nodes := by
  match derived with
  | .factor only => exact only.permitted
  | .product before joins behind =>
    refine Permits.join_iff.mpr ⟨fun percent => ?_, before.permitted, behind.permitted⟩
    rcases joins with star | slash | ⟨-, enabled⟩
    · cases star.symm.trans percent
    · cases slash.symm.trans percent
    · exact enabled

/-- A dialect has the features that its factors need, the sign among them. -/
theorem Factor.permitted {tokens : List Token} {tree : Expr}
    (derived : Factor dialect tokens tree) : dialect.Permits tree.nodes := by
  match derived with
  | .power before joins behind =>
    exact Permits.join_iff.mpr ⟨nofun, before.permitted, behind.permitted⟩
  | .negation enabled minus behind => exact Permits.signed_iff.mpr ⟨enabled, behind.permitted⟩
  | .primary only => exact only.permitted

/-- A dialect has the features that its primaries need, those in parentheses and those in calls. -/
theorem Primary.permitted {tokens : List Token} {tree : Expr}
    (derived : Primary dialect tokens tree) : dialect.Permits tree.nodes := by
  match derived with
  | .call named opens listed closes => exact Permits.call_iff.mpr listed.permitted
  | .number numeric denotes => exact (Permits.cons_plain rfl rfl).mpr nofun
  | .name named => exact (Permits.cons_plain rfl rfl).mpr nofun
  | .group opens grouped closes => exact grouped.permitted

/-- A dialect has the features that the arguments of its calls need. -/
theorem Arguments.permitted {tokens : List Token} {args : List Expr}
    (derived : Arguments dialect tokens args) : dialect.Permits (Expr.nodesOf args) := by
  match derived with
  | .none => exact nofun
  | .some listed => exact listed.permitted

/-- A dialect has the features that each of several arguments needs. -/
theorem ArgumentList.permitted {tokens : List Token} {args : List Expr}
    (derived : ArgumentList dialect tokens args) : dialect.Permits (Expr.nodesOf args) := by
  match derived with
  | .last only => exact Permits.append_iff.mpr ⟨only.permitted, nofun⟩
  | .more before separates behind =>
    exact Permits.append_iff.mpr ⟨before.permitted, behind.permitted⟩

end

/-- A dialect has the features that the expressions in its statements need. -/
theorem Statement.permitted {tokens : List Token} {stmt : Stmt}
    (derived : Statement dialect tokens stmt) : dialect.Permits stmt.nodes := by
  cases derived with
  | assign named assigns assigned ends => exact (Permits.cons_plain rfl rfl).mpr assigned.permitted
  | call named opens listed closes ends => exact Permits.call_iff.mpr listed.permitted
  | print keyword prints printed ends => exact printed.permitted

/-- A dialect has the features that its programs need, in all their statements. -/
theorem Body.permitted {tokens : List Token} {body : List Stmt}
    (derived : Body dialect tokens body) : dialect.Permits (body.flatMap Stmt.nodes) := by
  induction derived with
  | last only => simpa using only.permitted
  | more before behind others =>
    rw [List.flatMap_cons]
    exact Permits.append_iff.mpr ⟨before.permitted, others⟩

end Features

section Transfer

variable {dialect other : Dialect}

/-- Dialects with the same print style have the same names. Nothing else about a dialect decides
what a name is. -/
theorem isName_congr (print : other.print = dialect.print) {token : Token} :
    IsName other token ↔ IsName dialect token := by
  rw [IsName, IsName, print]

mutual

/-- What a dialect derives as an expression, any other one with the same print style and the
features for it derives with the same tree.

Proof: induction on derivations, with one lemma for each form of phrase. The features that a rule
asks for are those that the nodes of the tree need. -/
theorem Expression.transfer (print : other.print = dialect.print) {tokens : List Token}
    {tree : Expr} (derived : Expression dialect tokens tree) (permits : other.Permits tree.nodes) :
    Expression other tokens tree := by
  match derived with
  | .term only => exact .term (only.transfer print permits)
  | .sum before joins behind =>
    obtain ⟨-, left, right⟩ := Permits.join_iff.mp permits
    exact .sum (before.transfer print left) joins (behind.transfer print right)

/-- Terms are derived in the other dialect as well, if it has the remainder wherever the tree has
one. -/
theorem Term.transfer (print : other.print = dialect.print) {tokens : List Token} {tree : Expr}
    (derived : Term dialect tokens tree) (permits : other.Permits tree.nodes) :
    Term other tokens tree := by
  match derived with
  | .factor only => exact .factor (only.transfer print permits)
  | .product before joins behind =>
    obtain ⟨modulo, left, right⟩ := Permits.join_iff.mp permits
    refine .product (before.transfer print left) ?_ (behind.transfer print right)
    exact joins.imp_right (Or.imp_right fun percent => ⟨percent.1, modulo percent.1⟩)

/-- Factors are derived in the other dialect as well, if it has the sign wherever the tree has
one. -/
theorem Factor.transfer (print : other.print = dialect.print) {tokens : List Token} {tree : Expr}
    (derived : Factor dialect tokens tree) (permits : other.Permits tree.nodes) :
    Factor other tokens tree := by
  match derived with
  | .power before joins behind =>
    obtain ⟨-, base, exponent⟩ := Permits.join_iff.mp permits
    exact .power (before.transfer print base) joins (behind.transfer print exponent)
  | .negation _ minus behind =>
    obtain ⟨enabled, operand⟩ := Permits.signed_iff.mp permits
    exact .negation enabled minus (behind.transfer print operand)
  | .primary only => exact .primary (only.transfer print permits)

/-- Primaries are derived in the other dialect as well. Names are, because the print style is the
same. -/
theorem Primary.transfer (print : other.print = dialect.print) {tokens : List Token} {tree : Expr}
    (derived : Primary dialect tokens tree) (permits : other.Permits tree.nodes) :
    Primary other tokens tree := by
  match derived with
  | .call named opens listed closes =>
    have inside := listed.transfer print (Permits.call_iff.mp permits)
    exact .call ((isName_congr print).mpr named) opens inside closes
  | .number numeric denotes => exact .number numeric denotes
  | .name named => exact .name ((isName_congr print).mpr named)
  | .group opens grouped closes => exact .group opens (grouped.transfer print permits) closes

/-- The arguments of a call are derived in the other dialect as well. -/
theorem Arguments.transfer (print : other.print = dialect.print) {tokens : List Token}
    {args : List Expr} (derived : Arguments dialect tokens args)
    (permits : other.Permits (Expr.nodesOf args)) : Arguments other tokens args := by
  match derived with
  | .none => exact .none
  | .some listed => exact .some (listed.transfer print permits)

/-- A list of arguments is derived in the other dialect as well, one by one. -/
theorem ArgumentList.transfer (print : other.print = dialect.print) {tokens : List Token}
    {args : List Expr} (derived : ArgumentList dialect tokens args)
    (permits : other.Permits (Expr.nodesOf args)) : ArgumentList other tokens args := by
  match derived with
  | .last only => exact .last (only.transfer print (Permits.append_iff.mp permits).1)
  | .more before separates behind =>
    obtain ⟨here, later⟩ := Permits.append_iff.mp permits
    exact .more (before.transfer print here) separates (behind.transfer print later)

end

/-- Statements are derived in the other dialect as well, if it has the features for their
expressions. -/
theorem Statement.transfer (print : other.print = dialect.print) {tokens : List Token}
    {stmt : Stmt} (derived : Statement dialect tokens stmt) (permits : other.Permits stmt.nodes) :
    Statement other tokens stmt := by
  cases derived with
  | assign named assigns assigned ends =>
    have inside := assigned.transfer print ((Permits.cons_plain rfl rfl).mp permits)
    exact .assign ((isName_congr print).mpr named) assigns inside ends
  | call named opens listed closes ends =>
    have inside := listed.transfer print (Permits.call_iff.mp permits)
    exact .call ((isName_congr print).mpr named) opens inside closes ends
  | print keyword prints printed ends =>
    exact .print (print.trans keyword) prints (printed.transfer print permits) ends

/-- Programs are derived in the other dialect as well, if it has the features for all their
expressions. -/
theorem Body.transfer (print : other.print = dialect.print) {tokens : List Token}
    {body : List Stmt} (derived : Body dialect tokens body)
    (permits : other.Permits (body.flatMap Stmt.nodes)) : Body other tokens body := by
  induction derived with
  | last only =>
    rw [List.flatMap_singleton] at permits
    exact .last (only.transfer print permits)
  | more before behind others =>
    rw [List.flatMap_cons] at permits
    obtain ⟨here, later⟩ := Permits.append_iff.mp permits
    exact .more (before.transfer print here) (others later)

end Transfer

end Grammar

namespace Program

open Grammar

/-- The span of a program is that of its tokens, in any dialect. It does not depend on what the
tokens are read as. -/
theorem span_ofTokens (dialect : Dialect) (tokens : List Token) :
    (ofTokens dialect tokens).1.span =
      ⟨(Token.next tokens).span.start, (Token.ending tokens).span.stop⟩ := by
  by_cases ends : (Token.next tokens).kind = .endOfInput
  · simp only [ofTokens, if_pos ends]
  · simp only [ofTokens, if_neg ends]

/-- Reading a program is deriving its statements, with a span that the tokens give. So two
dialects read the same exactly when they derive the same. -/
theorem reads_iff_body (dialect : Dialect) (tokens : List Token) (program : Program) :
    ofTokens dialect tokens = (program, []) ↔
      Body dialect (Token.beforeEnd tokens) program.body ∧
        program.span = ⟨(Token.next tokens).span.start, (Token.ending tokens).span.stop⟩ := by
  rw [← ofTokens_iff_body, ← span_ofTokens dialect tokens]
  constructor
  · intro reads
    rw [reads]
    exact ⟨⟨rfl, rfl⟩, rfl⟩
  · rintro ⟨⟨clean, body⟩, span⟩
    obtain ⟨extent, statements⟩ := program
    cases span
    cases body
    rw [← clean]

/-- Features decide about their own construct and about nothing else. Of two dialects with
the same print style, let one have all the features of the other, or more. Then the lesser
one reads a program, spans included, exactly when the greater one reads the same, and there
is no remainder and no sign in it unless the lesser dialect has the feature for that. -/
theorem ofTokens_features (lesser greater : Dialect) (print : greater.print = lesser.print)
    (modulo : lesser.modulo = true → greater.modulo = true)
    (negation : lesser.negation = true → greater.negation = true)
    (tokens : List Token) (program : Program) :
    ofTokens lesser tokens = (program, []) ↔
      ofTokens greater tokens = (program, []) ∧
        ∀ node ∈ program.nodes, (node.isRemainder = true → lesser.modulo = true) ∧
          (node.isSigned = true → lesser.negation = true) := by
  rw [reads_iff_body, reads_iff_body]
  constructor
  · rintro ⟨derived, span⟩
    have permits := derived.permitted
    exact ⟨⟨derived.transfer print (permits.more modulo negation), span⟩, permits⟩
  · rintro ⟨⟨derived, span⟩, permits⟩
    exact ⟨derived.transfer print.symm permits, span⟩

/-- Without the remainder, `x = sin(-y * z);` is read as with it, and `x = sin(-y % z);` is
not. -/
theorem ofTokens_features_nested :
    let lesser : Dialect := ⟨false, true, .keyword⟩
    let token (kind : Token.Kind) (lexeme : String) : Token :=
      ⟨kind, Text.ofString lexeme, .nowhere⟩
    let name (text : String) : Name := ⟨.nowhere, Text.ofString text⟩
    let tokens (op : Token) : List Token :=
      [token .name "x", token .assign "=", token .name "sin", token .leftParen "(",
        token .minus "-", token .name "y", op, token .name "z", token .rightParen ")",
        token .semicolon ";"]
    let program (op : Token) : Program :=
      ⟨.nowhere, [.assign .nowhere (name "x") (.call .nowhere (name "sin")
        [.binary .nowhere op.kind (.unary .nowhere .minus (.name (name "y"))) (.name (name "z"))]
        .nowhere)]⟩
    ofTokens lesser (tokens (token .star "*")) = (program (token .star "*"), []) ∧
      ofTokens .full (tokens (token .percent "%")) = (program (token .percent "%"), []) ∧
      ofTokens lesser (tokens (token .percent "%")) ≠ (program (token .percent "%"), []) := by
  intro lesser token name tokens program
  have product : ofTokens .full (tokens (token .star "*")) = (program (token .star "*"), []) := by
    cbv
  have remainder :
      ofTokens .full (tokens (token .percent "%")) = (program (token .percent "%"), []) := by
    cbv
  have features (op : Token) :=
    ofTokens_features lesser .full rfl (fun _ => rfl) id (tokens op) (program op)
  refine ⟨(features _).mpr ⟨product, ?_⟩, remainder, fun reads => ?_⟩
  · simp [program, token, lesser, nodes, Stmt.nodes, Expr.nodes, Expr.nodesOf, Expr.isRemainder]
  · have permits := ((features _).mp reads).2
    simp [program, token, lesser, nodes, Stmt.nodes, Expr.nodes, Expr.nodesOf, Expr.isRemainder]
      at permits

end Program

end Astro
