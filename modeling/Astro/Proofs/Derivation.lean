import Astro.Proofs.Walk

/-!
# Walks follow derivations

A walk to a tree uses up tokens that the grammar derives with that tree, and
derived tokens are walked over whole, provided that the token behind them cannot
go on with the phrase. The grammar is left-recursive where reading goes on in a
loop: behind the tokens of a derived chain, reading stands in its loop with the
tree of the chain (`Extends`), which is what the induction on derivations carries.
-/

namespace Astro.Reading

open Grammar

/-- The derivations of a level of expressions. Each level is a category of the grammar. -/
def Level.Derived (dialect : Dialect) : Level → List Token → Expr → Prop
  | expression => Expression dialect
  | term => Term dialect
  | factor => Factor dialect

/-- The derivations of a phrase. What is joined to a chain derives a longer chain. -/
def Phrase.Derived (dialect : Dialect) : (phrase : Phrase) → List Token → phrase.Tree → Prop
  | level height, tokens, tree => height.Derived dialect tokens tree
  | more chain left, tokens, tree => ∀ first, chain.level.Derived dialect first left →
      chain.level.Derived dialect (first ++ tokens) tree
  | primary, tokens, tree => Primary dialect tokens tree
  | call callee, tokens, tree => ∃ within closing args, tokens = within ++ [closing] ∧
      Arguments dialect within args ∧ closing.kind = .rightParen ∧
      tree = Call.between callee within closing args
  | arguments, tokens, args => ArgumentList dialect tokens args

/-- One operand is a chain. -/
theorem Chain.derived_operand {dialect : Dialect} {chain : Chain} {tokens : List Token} {tree : Expr}
    (only : chain.operand.Derived dialect tokens tree) : chain.level.Derived dialect tokens tree := by
  cases chain with
  | sum => exact Expression.term only
  | product => exact Term.factor only

/-- A chain with one more operand is a chain. The operand is put behind the others, which makes
the chain lean to the left. -/
theorem Chain.derived_join {dialect : Dialect} {chain : Chain} {first last : List Token} {op : Token}
    {left right : Expr} (before : chain.level.Derived dialect first left)
    (joins : chain.Joins dialect op) (behind : chain.operand.Derived dialect last right) :
    chain.level.Derived dialect (first ++ op :: last) (Expr.join op.kind left right) := by
  cases chain with
  | sum => exact Expression.sum before joins behind
  | product => exact Term.product before joins behind

/-- A walk to a tree follows a derivation of that tree.

Proof: induction on the walk. A rule that reads a phrase to its end has the form of a rule of the
grammar, and a chain is derived from its operands from left to right. -/
theorem Walk.derived {dialect : Dialect} {phrase : Phrase} {used : List Token} {ahead : Token}
    {result : Except Diagnostic phrase.Tree} (walk : Walk dialect phrase used ahead result)
    (tree : phrase.Tree) (succeeded : result = .ok tree) : phrase.Derived dialect used tree := by
  induction walk with
  | chained operand behind operandDerived behindDerived =>
    exact behindDerived tree succeeded _ (Chain.derived_operand (operandDerived _ rfl))
  | chainEnds ends =>
    intro first derived
    cases succeeded
    rwa [List.append_nil]
  | @linked chain op used more ahead left right result joins operand behind operandDerived
      behindDerived =>
    intro first derived
    have longer := Chain.derived_join derived joins (operandDerived right rfl)
    have whole := behindDerived tree succeeded _ longer
    rwa [List.append_assoc, List.cons_append] at whole
  | negated enabled minus operand operandDerived =>
    cases succeeded
    exact Factor.negation enabled minus (operandDerived _ rfl)
  | unraised unsigned base ends baseDerived =>
    exact Factor.primary (baseDerived _ succeeded)
  | raised unsigned base raises exponent baseDerived exponentDerived =>
    cases succeeded
    exact Factor.power (baseDerived _ rfl) raises (exponentDerived _ rfl)
  | number numeric denotes =>
    cases succeeded
    exact Primary.number numeric denotes
  | name named ends =>
    cases succeeded
    exact Primary.name named
  | @called token opening ahead used result named opens behind behindDerived =>
    cases result with
    | error problem => cases succeeded
    | ok call =>
      cases succeeded
      obtain ⟨within, closing, args, rfl, listed, closes, rfl⟩ := behindDerived call rfl
      exact Primary.call named opens listed closes
  | grouped opens grouped closes groupDerived =>
    cases succeeded
    exact Primary.group opens (groupDerived _ rfl) closes
  | @noArguments callee closing ahead closes =>
    cases succeeded
    exact ⟨[], closing, [], rfl, .none, closes, rfl⟩
  | @argumentsClosed callee used closing ahead args some listed closes listDerived =>
    cases succeeded
    exact ⟨used, closing, args, rfl, .some (listDerived _ rfl), closes, rfl⟩
  | lastArgument first ends firstDerived =>
    cases succeeded
    exact ArgumentList.last (firstDerived _ rfl)
  | @moreArguments used more comma ahead tree result first separates behind firstDerived
      behindDerived =>
    cases result with
    | error problem => cases succeeded
    | ok args =>
      cases succeeded
      exact ArgumentList.more (firstDerived _ rfl) separates (behindDerived args rfl)
  | _ => cases succeeded

end Astro.Reading

namespace Astro.Grammar

/-- The tokens with which an expression can start. They are a sign, a numeral, a name and a
parenthesis. -/
def Starts (dialect : Dialect) (token : Token) : Prop :=
  token.kind = .minus ∨ token.kind = .number ∨ IsName dialect token ∨ token.kind = .leftParen

/-- A primary starts with a number, a name or a parenthesis. -/
theorem Primary.starts {dialect : Dialect} {tokens : List Token} {tree : Expr}
    (derived : Primary dialect tokens tree) :
    ∃ first rest, tokens = first :: rest ∧
      (first.kind = .number ∨ IsName dialect first ∨ first.kind = .leftParen) := by
  cases derived with
  | call named opens listed closes => exact ⟨_, _, rfl, .inr (.inl named)⟩
  | number numeric denotes => exact ⟨_, _, rfl, .inl numeric⟩
  | name named => exact ⟨_, _, rfl, .inr (.inl named)⟩
  | group opens grouped closes => exact ⟨_, _, rfl, .inr (.inr opens)⟩

/-- A factor starts with a sign or like a primary. -/
theorem Factor.starts {dialect : Dialect} {tokens : List Token} {tree : Expr}
    (derived : Factor dialect tokens tree) :
    ∃ first rest, tokens = first :: rest ∧ Starts dialect first := by
  cases derived with
  | power before joins behind =>
    obtain ⟨first, rest, rfl, start⟩ := before.starts
    exact ⟨first, _, rfl, .inr start⟩
  | negation enabled minus behind => exact ⟨_, _, rfl, .inl minus⟩
  | primary only =>
    obtain ⟨first, rest, rfl, start⟩ := only.starts
    exact ⟨first, rest, rfl, .inr start⟩

/-- A derived term is not empty, and its first token is one that an expression can start with. -/
theorem Term.starts {dialect : Dialect} {tokens : List Token} {tree : Expr}
    (derived : Term dialect tokens tree) :
    ∃ first rest, tokens = first :: rest ∧ Starts dialect first := by
  cases derived with
  | factor only => exact only.starts
  | product before joins behind =>
    obtain ⟨first, rest, rfl, start⟩ := before.starts
    exact ⟨first, _, rfl, start⟩

/-- A derived expression is not empty, and it starts as its first term does. -/
theorem Expression.starts {dialect : Dialect} {tokens : List Token} {tree : Expr}
    (derived : Expression dialect tokens tree) :
    ∃ first rest, tokens = first :: rest ∧ Starts dialect first := by
  cases derived with
  | term only => exact only.starts
  | sum before joins behind =>
    obtain ⟨first, rest, rfl, start⟩ := before.starts
    exact ⟨first, _, rfl, start⟩

/-- A derived list of arguments is not empty, and it starts as its first argument does. An empty
list is none. -/
theorem ArgumentList.starts {dialect : Dialect} {tokens : List Token} {args : List Expr}
    (derived : ArgumentList dialect tokens args) :
    ∃ first rest, tokens = first :: rest ∧ Starts dialect first := by
  cases derived with
  | last only => exact only.starts
  | more before separates behind =>
    obtain ⟨first, rest, rfl, start⟩ := before.starts
    exact ⟨first, _, rfl, start⟩

/-- What cannot go on behind a factor. A parenthesis would make a name a call, and an operator
would make a primary a power. -/
def EndsFactor (token : Token) : Prop := token.kind ≠ .leftParen ∧ token.kind ≠ .power

/-- What cannot go on behind a term. Besides what cannot follow a factor, these are the operators
between factors. -/
def EndsTerm (dialect : Dialect) (token : Token) : Prop :=
  EndsFactor token ∧ ¬ JoinsFactors dialect token

/-- The marks behind expressions in calls, groups and statements end them. -/
theorem ends_expression (dialect : Dialect) {token : Token}
    (mark : token.kind = .rightParen ∨ token.kind = .comma ∨ token.kind = .semicolon) :
    EndsTerm dialect token ∧ ¬ JoinsTerms token := by
  rcases mark with kind | kind | kind <;>
    simp [EndsTerm, EndsFactor, JoinsTerms, JoinsFactors, kind]

/-- An operator between terms ends the term before it. It is neither a parenthesis nor an operator
that binds more strongly. -/
theorem JoinsTerms.endsTerm {dialect : Dialect} {op : Token} (joins : JoinsTerms op) :
    EndsTerm dialect op := by
  rcases joins with kind | kind <;> simp [EndsTerm, EndsFactor, JoinsFactors, kind]

/-- An operator between factors ends the factor before it. It is neither a parenthesis nor the
operator of powers. -/
theorem JoinsFactors.endsFactor {dialect : Dialect} {op : Token} (joins : JoinsFactors dialect op) :
    EndsFactor op := by
  rcases joins with kind | kind | ⟨kind, _⟩ <;> simp [EndsFactor, kind]

/-- A primary starts with no sign. It starts with a numeral, a name or a parenthesis. -/
theorem Primary.unsigned {dialect : Dialect} {tokens : List Token} {tree : Expr}
    (derived : Primary dialect tokens tree) (ahead : Token) :
    (Token.next (tokens ++ [ahead])).kind ≠ .minus := by
  obtain ⟨first, rest, rfl, kind | (kind | ⟨kind, _⟩) | kind⟩ := derived.starts <;>
    simp [kind]

/-- Arguments do not start with the parenthesis that closes them. -/
theorem ArgumentList.inside {dialect : Dialect} {tokens : List Token} {args : List Expr}
    (derived : ArgumentList dialect tokens args) (ahead : Token) :
    (Token.next (tokens ++ [ahead])).kind ≠ .rightParen := by
  obtain ⟨first, rest, rfl, kind | kind | (kind | ⟨kind, _⟩) | kind⟩ := derived.starts <;>
    simp [kind]

open Reading

/-- What cannot go on behind an operand of a chain. -/
def EndsOperand (dialect : Dialect) : Chain → Token → Prop
  | .sum => EndsTerm dialect
  | .product => EndsFactor

/-- Tokens are read as a chain with the tree `left` so far: whatever is then read behind them as
more of the chain is what comes of the whole. -/
def Extends (dialect : Dialect) (chain : Chain) (tokens : List Token) (left : Expr) : Prop :=
  ∀ (more : List Token) (ahead : Token) (result : Except Diagnostic Expr),
    Walk dialect (.more chain left) more ahead result →
    EndsOperand dialect chain (Token.next (more ++ [ahead])) →
    Walk dialect (.level chain.level) (tokens ++ more) ahead result

/-- A chain behind which nothing is joined is read whole. -/
theorem Extends.walk {dialect : Dialect} {chain : Chain} {tokens : List Token} {tree : Expr}
    (reaches : Extends dialect chain tokens tree) {ahead : Token}
    (ends : EndsOperand dialect chain ahead) (last : ¬ chain.Joins dialect ahead) :
    Walk dialect (.level chain.level) tokens ahead (.ok tree) := by
  have whole := reaches [] ahead (.ok tree) (.chainEnds last) ends
  rwa [List.append_nil] at whole

/-- An expression with a mark behind it is read whole. -/
theorem Extends.walkTo {dialect : Dialect} {tokens : List Token} {tree : Expr}
    (reaches : Extends dialect .sum tokens tree) {ahead : Token}
    (mark : ahead.kind = .rightParen ∨ ahead.kind = .comma ∨ ahead.kind = .semicolon) :
    Walk dialect (.level .expression) tokens ahead (.ok tree) :=
  reaches.walk (ends_expression dialect mark).1 (ends_expression dialect mark).2

mutual

/-- Derived sums are read as far as they go. Whatever terms follow are joined to the ones before. -/
theorem Expression.extends {dialect : Dialect} {tokens : List Token} {tree : Expr}
    (derived : Expression dialect tokens tree) : Extends dialect .sum tokens tree := by
  match derived with
  | .term only =>
    intro more ahead result behind ends
    exact @Walk.chained dialect .sum _ _ _ _ _ (only.extends.walk ends.1 ends.2) behind
  | .sum before joins last =>
    intro more ahead result behind ends
    rw [List.append_assoc, List.cons_append]
    exact before.extends _ _ _ (.linked joins (last.extends.walk ends.1 ends.2) behind)
      joins.endsTerm

/-- Derived products are read as far as they go. Whatever factors follow are joined to the ones
before. -/
theorem Term.extends {dialect : Dialect} {tokens : List Token} {tree : Expr}
    (derived : Term dialect tokens tree) : Extends dialect .product tokens tree := by
  match derived with
  | .factor only =>
    intro more ahead result behind ends
    exact @Walk.chained dialect .product _ _ _ _ _ (only.walk ends) behind
  | .product before joins last =>
    intro more ahead result behind ends
    rw [List.append_assoc, List.cons_append]
    exact before.extends _ _ _ (.linked joins (last.walk ends) behind) joins.endsFactor

/-- A derived factor is read whole before what ends it. -/
theorem Factor.walk {dialect : Dialect} {tokens : List Token} {ahead : Token} {tree : Expr}
    (derived : Factor dialect tokens tree) (ends : EndsFactor ahead) :
    Walk dialect (.level .factor) tokens ahead (.ok tree) := by
  match derived with
  | .power before joins behind =>
    refine .raised (before.unsigned _) (before.walk ?_) joins (behind.walk ends)
    simp [joins]
  | .negation enabled minus behind => exact .negated enabled minus (behind.walk ends.1)
  | .primary only => exact .unraised (only.unsigned _) (only.walk ends.1) ends.2

/-- A derived primary is read whole, unless a name is followed by a parenthesis. -/
theorem Primary.walk {dialect : Dialect} {tokens : List Token} {ahead : Token} {tree : Expr}
    (derived : Primary dialect tokens tree) (ends : ahead.kind ≠ .leftParen) :
    Walk dialect .primary tokens ahead (.ok tree) := by
  match derived with
  | .call named opens listed closes => exact .called named opens (listed.walk _ closes)
  | .number numeric denotes => exact .number numeric denotes
  | .name named => exact .name named ends
  | .group opens grouped closes =>
    exact .grouped opens (grouped.extends.walkTo (.inl closes)) closes

/-- Derived arguments and the parenthesis behind them are read as a call. -/
theorem Arguments.walk {dialect : Dialect} {tokens : List Token} {closing ahead : Token}
    {args : List Expr} (derived : Arguments dialect tokens args) (callee : Name)
    (closes : closing.kind = .rightParen) :
    Walk dialect (.call callee) (tokens ++ [closing]) ahead
      (.ok (Call.between callee tokens closing args)) := by
  match derived with
  | .none => exact .noArguments closes
  | .some listed => exact .argumentsClosed (listed.inside _) (listed.walk closes) closes

/-- Derived arguments are read whole before the parenthesis behind them. -/
theorem ArgumentList.walk {dialect : Dialect} {tokens : List Token} {ahead : Token}
    {args : List Expr} (derived : ArgumentList dialect tokens args)
    (mark : ahead.kind = .rightParen) :
    Walk dialect .arguments tokens ahead (.ok args) := by
  match derived with
  | .last only =>
    refine .lastArgument (only.extends.walkTo (.inl mark)) ?_
    simp [mark]
  | .more before separates behind =>
    exact .moreArguments (before.extends.walkTo (.inr (.inl separates))) separates
      (behind.walk mark)

end

end Astro.Grammar
