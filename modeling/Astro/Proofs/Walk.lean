import Astro.Proofs.Outcome

/-!
# Walks

A walk is a complete account of reading one phrase: the tokens that were used up,
the one token that was seen behind them, and the tree or the diagnostic that came
of it. There is one rule for every way in which reading can go on or stop, so
every law about reading can be had by induction on walks, without opening the
reading functions again.

Walks are exact. Every list of tokens can be walked over as any phrase
(`Phrase.walked`), and a walk determines the outcome of reading, whatever tokens
follow the one that was seen (`Walk.outcome_eq`).
-/

namespace Astro.Token

/-- The next of some tokens is the first of them, if there is one. -/
@[simp]
theorem next_cons (first : Token) (rest : List Token) : next (first :: rest) = first := rfl

/-- Only the next of the tokens behind a list can be seen from it. Whatever stands further behind
may be exchanged. -/
theorem next_append (tokens rest : List Token) :
    next (tokens ++ rest) = next (tokens ++ [next rest]) := by
  cases tokens with
  | nil => rfl
  | cons first more => rfl

/-- Behind two stretches of tokens is behind the second. If the second is empty, it is the place
behind the first. -/
theorem lastStop_append (before : Position) (first second : List Token) :
    lastStop before (first ++ second) = lastStop (lastStop before first) second := by
  simp only [lastStop, List.foldl_append]

end Astro.Token

namespace Astro.Reading

open Grammar

/-- The two levels at which operands are joined from the left. -/
inductive Chain where
  | sum
  | product

/-- The levels of expressions that have a single tree. Below them are the primaries, which are
read by a function of their own. -/
inductive Level where
  | expression
  | term
  | factor

/-- The level of a whole chain. A sum is an expression, and a product a term. -/
def Chain.level : Chain → Level
  | sum => .expression
  | product => .term

/-- The level of the operands of a chain. Sums are made of terms, and products of factors. -/
def Chain.operand : Chain → Level
  | sum => .term
  | product => .factor

/-- The operators that join the operands of a chain. -/
def Chain.Joins (dialect : Dialect) : Chain → Token → Prop
  | sum => JoinsTerms
  | product => JoinsFactors dialect

/-- What the reading functions read. There is one for each of them, with what it is given besides
tokens. -/
inductive Phrase where
  | level (level : Level)
  | more (chain : Chain) (left : Expr)
  | primary
  | call (callee : Name)
  | arguments

/-- What a phrase stands for. It is a call, a list of arguments, or else an expression. -/
abbrev Phrase.Tree : Phrase → Type
  | call _ => Call
  | arguments => List Expr
  | _ => Expr

/-- The outcome of reading a phrase behind the place `before`, which matters only to
what may be empty. -/
def Phrase.outcome (dialect : Dialect) (before : Position) :
    (phrase : Phrase) → List Token → Outcome phrase.Tree
  | level .expression, tokens => (expression dialect tokens).outcome
  | level .term, tokens => (term dialect tokens).outcome
  | level .factor, tokens => (factor dialect tokens).outcome
  | more .sum left, tokens => (moreTerms dialect left before tokens).outcome
  | more .product left, tokens => (moreFactors dialect left before tokens).outcome
  | primary, tokens => (Reading.primary dialect tokens).outcome
  | call callee, tokens => (Reading.call dialect callee tokens).outcome
  | arguments, tokens => (Reading.arguments dialect tokens).outcome

/-- A phrase is read from the tokens used, with one token ahead of them. -/
inductive Walk (dialect : Dialect) :
    (phrase : Phrase) → List Token → Token → Except Diagnostic phrase.Tree → Prop where
  | operandRefused {chain : Chain} {used : List Token} {ahead : Token} {problem : Diagnostic}
      (operand : Walk dialect (.level chain.operand) used ahead (.error problem)) :
      Walk dialect (.level chain.level) used ahead (.error problem)
  | chained {chain : Chain} {used more : List Token} {ahead : Token} {left : Expr}
      {result : Except Diagnostic Expr}
      (operand : Walk dialect (.level chain.operand) used (Token.next (more ++ [ahead])) (.ok left))
      (behind : Walk dialect (.more chain left) more ahead result) :
      Walk dialect (.level chain.level) (used ++ more) ahead result
  | chainEnds {chain : Chain} {ahead : Token} {left : Expr} (ends : ¬ chain.Joins dialect ahead) :
      Walk dialect (.more chain left) [] ahead (.ok left)
  | linkRefused {chain : Chain} {op : Token} {used : List Token} {ahead : Token} {left : Expr}
      {problem : Diagnostic} (joins : chain.Joins dialect op)
      (operand : Walk dialect (.level chain.operand) used ahead (.error problem)) :
      Walk dialect (.more chain left) (op :: used) ahead (.error problem)
  | linked {chain : Chain} {op : Token} {used more : List Token} {ahead : Token} {left right : Expr}
      {result : Except Diagnostic Expr} (joins : chain.Joins dialect op)
      (operand : Walk dialect (.level chain.operand) used (Token.next (more ++ [ahead])) (.ok right))
      (behind : Walk dialect (.more chain (Expr.join op.kind left right)) more ahead result) :
      Walk dialect (.more chain left) (op :: (used ++ more)) ahead result
  | negationDisabled {sign ahead : Token} (minus : sign.kind = .minus)
      (disabled : dialect.negation = false) :
      Walk dialect (.level .factor) [sign] ahead
        (.error (Problem.negationDisabled.diagnostic sign.span))
  | negationRefused {sign : Token} {used : List Token} {ahead : Token} {problem : Diagnostic}
      (enabled : dialect.negation = true) (minus : sign.kind = .minus)
      (operand : Walk dialect .primary used ahead (.error problem)) :
      Walk dialect (.level .factor) (sign :: used) ahead (.error problem)
  | negated {sign : Token} {used : List Token} {ahead : Token} {tree : Expr}
      (enabled : dialect.negation = true) (minus : sign.kind = .minus)
      (operand : Walk dialect .primary used ahead (.ok tree)) :
      Walk dialect (.level .factor) (sign :: used) ahead
        (.ok (.unary ⟨sign.span.start, tree.span.stop⟩ .minus tree))
  | baseRefused {used : List Token} {ahead : Token} {problem : Diagnostic}
      (unsigned : (Token.next (used ++ [ahead])).kind ≠ .minus)
      (base : Walk dialect .primary used ahead (.error problem)) :
      Walk dialect (.level .factor) used ahead (.error problem)
  | unraised {used : List Token} {ahead : Token} {tree : Expr}
      (unsigned : (Token.next (used ++ [ahead])).kind ≠ .minus)
      (base : Walk dialect .primary used ahead (.ok tree)) (ends : ahead.kind ≠ .power) :
      Walk dialect (.level .factor) used ahead (.ok tree)
  | exponentRefused {used more : List Token} {op ahead : Token} {tree : Expr} {problem : Diagnostic}
      (unsigned : (Token.next (used ++ [op])).kind ≠ .minus)
      (base : Walk dialect .primary used op (.ok tree)) (raises : op.kind = .power)
      (exponent : Walk dialect (.level .factor) more ahead (.error problem)) :
      Walk dialect (.level .factor) (used ++ op :: more) ahead (.error problem)
  | raised {used more : List Token} {op ahead : Token} {tree power : Expr}
      (unsigned : (Token.next (used ++ [op])).kind ≠ .minus)
      (base : Walk dialect .primary used op (.ok tree)) (raises : op.kind = .power)
      (exponent : Walk dialect (.level .factor) more ahead (.ok power)) :
      Walk dialect (.level .factor) (used ++ op :: more) ahead (.ok (Expr.join .power tree power))
  | malformed {token ahead : Token} (numeric : token.kind = .number)
      (meaningless : Number.ofNumeral? token.lexeme = none) :
      Walk dialect .primary [token] ahead
        (.error ((Problem.malformedNumeral token.lexeme).diagnostic token.span))
  | number {token ahead : Token} {value : Float} (numeric : token.kind = .number)
      (denotes : Number.ofNumeral? token.lexeme = some value) :
      Walk dialect .primary [token] ahead (.ok (.numeral token.span token.lexeme value))
  | name {token ahead : Token} (named : IsName dialect token) (ends : ahead.kind ≠ .leftParen) :
      Walk dialect .primary [token] ahead (.ok (.name (Name.ofToken token)))
  | called {token opening ahead : Token} {used : List Token} {result : Except Diagnostic Call}
      (named : IsName dialect token) (opens : opening.kind = .leftParen)
      (behind : Walk dialect (.call (Name.ofToken token)) used ahead result) :
      Walk dialect .primary (token :: opening :: used) ahead (result.map Call.toExpr)
  | groupRefused {opening ahead : Token} {used : List Token} {problem : Diagnostic}
      (opens : opening.kind = .leftParen)
      (grouped : Walk dialect (.level .expression) used ahead (.error problem)) :
      Walk dialect .primary (opening :: used) ahead (.error problem)
  | groupOpen {opening ahead : Token} {used : List Token} {tree : Expr}
      (opens : opening.kind = .leftParen)
      (grouped : Walk dialect (.level .expression) used ahead (.ok tree))
      (unclosed : ahead.kind ≠ .rightParen) :
      Walk dialect .primary (opening :: used) ahead
        (.error ((Problem.expected .rightParen ahead).diagnostic ahead.span))
  | grouped {opening closing ahead : Token} {used : List Token} {tree : Expr}
      (opens : opening.kind = .leftParen)
      (grouped : Walk dialect (.level .expression) used closing (.ok tree))
      (closes : closing.kind = .rightParen) :
      Walk dialect .primary (opening :: (used ++ [closing])) ahead (.ok tree)
  | noPrimary {ahead : Token} (noNumber : ahead.kind ≠ .number) (noName : ¬ IsName dialect ahead)
      (noGroup : ahead.kind ≠ .leftParen) :
      Walk dialect .primary [] ahead
        (.error ((Problem.expectedExpression ahead).diagnostic ahead.span))
  | noArguments {callee : Name} {closing ahead : Token} (closes : closing.kind = .rightParen) :
      Walk dialect (.call callee) [closing] ahead (.ok (Call.between callee [] closing []))
  | argumentsRefused {callee : Name} {used : List Token} {ahead : Token} {problem : Diagnostic}
      (some : (Token.next (used ++ [ahead])).kind ≠ .rightParen)
      (listed : Walk dialect .arguments used ahead (.error problem)) :
      Walk dialect (.call callee) used ahead (.error problem)
  | argumentsOpen {callee : Name} {used : List Token} {ahead : Token} {args : List Expr}
      (some : (Token.next (used ++ [ahead])).kind ≠ .rightParen)
      (listed : Walk dialect .arguments used ahead (.ok args)) (unclosed : ahead.kind ≠ .rightParen) :
      Walk dialect (.call callee) used ahead
        (.error ((Problem.expected .rightParen ahead).diagnostic ahead.span))
  | argumentsClosed {callee : Name} {used : List Token} {closing ahead : Token} {args : List Expr}
      (some : (Token.next (used ++ [closing])).kind ≠ .rightParen)
      (listed : Walk dialect .arguments used closing (.ok args)) (closes : closing.kind = .rightParen) :
      Walk dialect (.call callee) (used ++ [closing]) ahead
        (.ok (Call.between callee used closing args))
  | argumentRefused {used : List Token} {ahead : Token} {problem : Diagnostic}
      (first : Walk dialect (.level .expression) used ahead (.error problem)) :
      Walk dialect .arguments used ahead (.error problem)
  | lastArgument {used : List Token} {ahead : Token} {tree : Expr}
      (first : Walk dialect (.level .expression) used ahead (.ok tree)) (ends : ahead.kind ≠ .comma) :
      Walk dialect .arguments used ahead (.ok [tree])
  | moreArguments {used more : List Token} {comma ahead : Token} {tree : Expr}
      {result : Except Diagnostic (List Expr)}
      (first : Walk dialect (.level .expression) used comma (.ok tree))
      (separates : comma.kind = .comma)
      (behind : Walk dialect .arguments more ahead result) :
      Walk dialect .arguments (used ++ comma :: more) ahead (result.map (tree :: ·))


/-- Names are recognized as the grammar has them, in every dialect. -/
theorem isName_iff (dialect : Dialect) (token : Token) :
    dialect.isName token = true ↔ IsName dialect token := by
  simp [Dialect.isName, IsName]

/-- The operators of a chain are recognized as the grammar has them. -/
theorem joins_iff (dialect : Dialect) (chain : Chain) (op : Token) :
    (match chain with
      | .sum => Dialect.joinsTerms op.kind
      | .product => dialect.joinsFactors op.kind) = true ↔ chain.Joins dialect op := by
  cases chain with
  | sum => simp [Dialect.joinsTerms, Chain.Joins, JoinsTerms]
  | product => simp [Dialect.joinsFactors, Chain.Joins, JoinsFactors, or_assoc]

namespace Phrase

variable (dialect : Dialect) (before : Position)

/-- A level is read as one of its operands and then as what more is joined to it. The first
outcome that is a refusal ends it. -/
theorem outcome_level (chain : Chain) (tokens : List Token) :
    outcome dialect before (.level chain.level) tokens =
      (outcome dialect before (.level chain.operand) tokens).bind fun left stop rest =>
        outcome dialect stop (.more chain left) rest := by
  cases chain with
  | sum => exact outcome_expression dialect tokens
  | product => exact outcome_term dialect tokens

/-- What is joined so far is the whole chain in front of a token that is none of its operators. -/
theorem outcome_more_ends (chain : Chain) (left : Expr) (tokens : List Token)
    (ends : ¬ chain.Joins dialect (Token.next tokens)) :
    outcome dialect before (.more chain left) tokens = .read left before tokens := by
  cases chain with
  | sum =>
    refine (outcome_moreTerms dialect left before tokens).trans (if_neg ?_)
    exact fun joins => ends ((joins_iff dialect .sum _).mp joins)
  | product =>
    refine (outcome_moreFactors dialect left before tokens).trans (if_neg ?_)
    exact fun joins => ends ((joins_iff dialect .product _).mp joins)

/-- In front of an operator of the chain its operand is read, and the chain goes on with both
operands joined. -/
theorem outcome_more_joins (chain : Chain) (left : Expr) (op : Token) (tokens : List Token)
    (joins : chain.Joins dialect op) :
    outcome dialect before (.more chain left) (op :: tokens) =
      (outcome dialect op.span.stop (.level chain.operand) tokens).bind fun right stop rest =>
        outcome dialect stop (.more chain (Expr.join op.kind left right)) rest := by
  cases chain with
  | sum =>
    refine (outcome_moreTerms dialect left before (op :: tokens)).trans (if_pos ?_)
    exact (joins_iff dialect .sum _).mpr joins
  | product =>
    refine (outcome_moreFactors dialect left before (op :: tokens)).trans (if_pos ?_)
    exact (joins_iff dialect .product _).mpr joins

end Phrase

/-- A name is no number, so that no primary begins as both. -/
theorem not_number_of_isName {dialect : Dialect} {token : Token} (named : IsName dialect token) :
    token.kind ≠ .number := by
  rcases named with plain | ⟨word, _⟩
  · simp [plain]
  · simp [word]

/-- What is behind an opening parenthesis is read as an expression. -/
theorem outcome_primary_group (dialect : Dialect) (opening : Token) (tokens : List Token)
    (opens : opening.kind = .leftParen) :
    (primary dialect (opening :: tokens)).outcome =
      (expression dialect tokens).outcome.bind fun value _ rest =>
        (token .rightParen rest).outcome.map fun _ => value := by
  have noName : ¬ dialect.isName opening = true := by simp [Dialect.isName, opens]
  refine (outcome_primary dialect _).trans ((if_neg (by simp [opens])).trans ?_)
  exact (if_neg noName).trans (if_pos opens)

/-- A walk determines what reading gives, whatever stands behind the token ahead.

Proof: induction on the walk. Each rule says which tests the reading function makes and what it
goes on with, and the token ahead is all that these tests see of the rest. -/
theorem Walk.outcome_eq {dialect : Dialect} {phrase : Phrase} {used : List Token} {ahead : Token}
    {result : Except Diagnostic phrase.Tree} (walk : Walk dialect phrase used ahead result)
    (before : Position) (rest : List Token) (next : Token.next rest = ahead) :
    phrase.outcome dialect before (used ++ rest) =
      .of result (Token.lastStop before used) rest := by
  induction walk generalizing before rest with
  | operandRefused operand operandRead =>
    rw [Phrase.outcome_level, operandRead before rest next]
    rfl
  | @chained chain used more ahead left result operand behind operandRead behindRead =>
    have between : Token.next (more ++ rest) = Token.next (more ++ [ahead]) := by
      rw [Token.next_append, next]
    rw [Phrase.outcome_level, List.append_assoc, operandRead before _ between, Token.lastStop_append]
    exact behindRead _ rest next
  | chainEnds ends =>
    subst next
    exact Phrase.outcome_more_ends dialect before _ _ rest ends
  | @linkRefused chain op used ahead left problem joins operand operandRead =>
    rw [List.cons_append, Phrase.outcome_more_joins dialect before _ _ _ _ joins,
      operandRead _ rest next]
    rfl
  | @linked chain op used more ahead left right result joins operand behind operandRead behindRead =>
    have between : Token.next (more ++ rest) = Token.next (more ++ [ahead]) := by
      rw [Token.next_append, next]
    rw [List.cons_append, Phrase.outcome_more_joins dialect before _ _ _ _ joins, List.append_assoc,
      operandRead _ _ between, ← List.cons_append, Token.lastStop_append]
    exact behindRead _ rest next
  | negationDisabled minus disabled =>
    refine (outcome_factor dialect _).trans ?_
    rw [List.cons_append, Token.next_cons, if_pos minus, disabled]
    rfl
  | @negationRefused sign used ahead problem enabled minus operand operandRead =>
    refine (outcome_factor dialect _).trans ?_
    rw [List.cons_append, Token.next_cons, if_pos minus, if_pos enabled]
    exact congrArg (Outcome.map _) (operandRead sign.span.stop rest next)
  | @negated sign used ahead tree enabled minus operand operandRead =>
    refine (outcome_factor dialect _).trans ?_
    rw [List.cons_append, Token.next_cons, if_pos minus, if_pos enabled]
    exact congrArg (Outcome.map _) (operandRead sign.span.stop rest next)
  | @baseRefused used ahead problem unsigned base baseRead =>
    refine (outcome_factor dialect _).trans ?_
    rw [Token.next_append, next, if_neg unsigned]
    exact congrArg (Outcome.bind · _) (baseRead before rest next)
  | @unraised used ahead tree unsigned base ends baseRead =>
    refine (outcome_factor dialect _).trans ?_
    rw [Token.next_append, next, if_neg unsigned]
    refine (congrArg (Outcome.bind · _) (baseRead before rest next)).trans (if_neg ?_)
    rwa [next]
  | @exponentRefused used more op ahead tree problem unsigned base raises exponent baseRead
      exponentRead =>
    refine (outcome_factor dialect _).trans ?_
    rw [List.append_assoc, Token.next_append, List.cons_append, Token.next_cons, if_neg unsigned]
    refine (congrArg (Outcome.bind · _) (baseRead before (op :: (more ++ rest)) rfl)).trans ?_
    refine (if_pos raises).trans ?_
    exact congrArg (Outcome.map _) (exponentRead op.span.stop rest next)
  | @raised used more op ahead tree power unsigned base raises exponent baseRead exponentRead =>
    refine (outcome_factor dialect _).trans ?_
    rw [List.append_assoc, Token.next_append, List.cons_append, Token.next_cons, if_neg unsigned]
    refine (congrArg (Outcome.bind · _) (baseRead before (op :: (more ++ rest)) rfl)).trans ?_
    refine (if_pos raises).trans ?_
    rw [Token.lastStop_append]
    exact congrArg (Outcome.map _) (exponentRead op.span.stop rest next)
  | malformed numeric meaningless =>
    refine (outcome_primary dialect _).trans ((if_pos numeric).trans ?_)
    simp only [List.cons_append, Token.next_cons, meaningless]
    rfl
  | number numeric denotes =>
    refine (outcome_primary dialect _).trans ((if_pos numeric).trans ?_)
    simp only [List.cons_append, Token.next_cons, denotes]
    rfl
  | @name token ahead named ends =>
    refine (outcome_primary dialect _).trans ((if_neg (not_number_of_isName named)).trans ?_)
    refine (if_pos ((isName_iff dialect token).mpr named)).trans (if_neg ?_)
    rwa [← next] at ends
  | @called token opening ahead used result named opens behind behindRead =>
    refine (outcome_primary dialect _).trans ((if_neg (not_number_of_isName named)).trans ?_)
    refine (if_pos ((isName_iff dialect token).mpr named)).trans ((if_pos opens).trans ?_)
    exact (congrArg (Outcome.map _) (behindRead opening.span.stop rest next)).trans
      (Outcome.map_of _ _ _ _)
  | @groupRefused opening ahead used problem opens grouped groupRead =>
    refine (outcome_primary_group dialect opening _ opens).trans ?_
    exact congrArg (Outcome.bind · _) (groupRead opening.span.stop rest next)
  | @groupOpen opening ahead used tree opens grouped unclosed groupRead =>
    refine (outcome_primary_group dialect opening _ opens).trans ?_
    refine (congrArg (Outcome.bind · _) (groupRead opening.span.stop rest next)).trans ?_
    subst next
    exact congrArg (Outcome.map _) ((outcome_token _ (by decide) rest).trans (if_neg unclosed))
  | @grouped opening closing ahead used tree opens grouped closes groupRead =>
    rw [List.cons_append, List.append_assoc]
    refine (outcome_primary_group dialect opening _ opens).trans ?_
    refine (congrArg (Outcome.bind · _)
      (groupRead opening.span.stop (closing :: rest) rfl)).trans ?_
    rw [← List.cons_append, Token.lastStop_append]
    exact congrArg (Outcome.map _) ((outcome_token _ (by decide) (closing :: rest)).trans
      (if_pos closes))
  | @noPrimary ahead noNumber noName noGroup =>
    subst next
    refine (outcome_primary dialect _).trans ((if_neg noNumber).trans ?_)
    refine (if_neg fun named => noName ((isName_iff dialect _).mp named)).trans (if_neg noGroup)
  | noArguments closes =>
    exact (outcome_call dialect _ _).trans (if_pos closes)
  | @argumentsRefused callee used ahead problem some listed listRead =>
    refine (outcome_call dialect callee _).trans ?_
    simp only [Token.next_append used rest, next, if_neg some]
    exact congrArg (Outcome.bind · _) (listRead before rest next)
  | @argumentsOpen callee used ahead args some listed unclosed listRead =>
    refine (outcome_call dialect callee _).trans ?_
    simp only [Token.next_append used rest, next, if_neg some]
    refine (congrArg (Outcome.bind · _) (listRead before rest next)).trans ?_
    subst next
    exact congrArg (Outcome.map _) ((outcome_token _ (by decide) rest).trans (if_neg unclosed))
  | @argumentsClosed callee used closing ahead args some listed closes listRead =>
    rw [List.append_assoc]
    refine (outcome_call dialect callee _).trans ?_
    simp only [List.cons_append, List.nil_append, Token.next_append used (closing :: rest),
      Token.next_cons, if_neg some]
    refine (congrArg (Outcome.bind · _) (listRead (Token.next (used ++ [closing])).span.start
      (closing :: rest) rfl)).trans ?_
    rw [Token.lastStop_append]
    exact congrArg (Outcome.map _) ((outcome_token _ (by decide) (closing :: rest)).trans
      (if_pos closes))
  | @argumentRefused used ahead problem first firstRead =>
    exact (outcome_arguments dialect _).trans
      (congrArg (Outcome.bind · _) (firstRead before rest next))
  | @lastArgument used ahead tree first ends firstRead =>
    refine (outcome_arguments dialect _).trans ?_
    refine (congrArg (Outcome.bind · _) (firstRead before rest next)).trans (if_neg ?_)
    rwa [next]
  | @moreArguments used more comma ahead tree result first separates behind firstRead behindRead =>
    rw [List.append_assoc, Token.lastStop_append]
    refine (outcome_arguments dialect _).trans ?_
    refine (congrArg (Outcome.bind · _) (firstRead before (comma :: (more ++ rest)) rfl)).trans ?_
    refine (if_pos separates).trans ?_
    exact (congrArg (Outcome.map _) (behindRead comma.span.stop rest next)).trans
      (Outcome.map_of _ _ _ _)


/-- Some tokens at the front of a list can be walked over as a phrase. -/
def Phrase.Walked (dialect : Dialect) (phrase : Phrase) (tokens : List Token) : Prop :=
  ∃ used rest result, tokens = used ++ rest ∧ Walk dialect phrase used (Token.next rest) result

/-- A list whose next token does not end the input has that token at its front. -/
theorem exists_cons_of_next {tokens : List Token} {kind : Token.Kind}
    (found : (Token.next tokens).kind = kind) (inner : kind ≠ .endOfInput) :
    ∃ first rest, tokens = first :: rest ∧ first.kind = kind := by
  cases tokens with
  | nil => exact absurd found.symm inner
  | cons first rest => exact ⟨first, rest, rfl, found⟩

namespace Phrase

variable {dialect : Dialect} {tokens : List Token}

/-- A level can be walked over if its operand can and, behind that, whatever more is joined. -/
theorem walked_level (chain : Chain) (operand : Walked dialect (.level chain.operand) tokens)
    (more : ∀ left rest, rest.length ≤ tokens.length → Walked dialect (.more chain left) rest) :
    Walked dialect (.level chain.level) tokens := by
  obtain ⟨used, rest, result, rfl, walk⟩ := operand
  cases result with
  | error problem => exact ⟨used, rest, .error problem, rfl, .operandRefused walk⟩
  | ok left =>
    obtain ⟨behind, left', result, rfl, walkBehind⟩ := more left rest (by simp)
    rw [Token.next_append] at walk
    exact ⟨used ++ behind, left', result, (List.append_assoc ..).symm, .chained walk walkBehind⟩

/-- What is joined to a chain can be walked over if everything with fewer tokens can. It ends in
front of a token that is none of its operators. -/
theorem walked_more (chain : Chain) (left : Expr)
    (operand : ∀ rest, rest.length < tokens.length → Walked dialect (.level chain.operand) rest)
    (more : ∀ left rest, rest.length < tokens.length → Walked dialect (.more chain left) rest) :
    Walked dialect (.more chain left) tokens := by
  by_cases joins : chain.Joins dialect (Token.next tokens)
  · cases tokens with
    | nil =>
      exfalso
      cases chain <;> simp [Chain.Joins, JoinsTerms, JoinsFactors, Token.next, Token.missing] at joins
    | cons op tokens =>
      obtain ⟨used, rest, result, rfl, walk⟩ := operand tokens (by simp)
      cases result with
      | error problem => exact ⟨op :: used, rest, .error problem, rfl, .linkRefused joins walk⟩
      | ok right =>
        obtain ⟨behind, rest', result, rfl, walkBehind⟩ :=
          more (Expr.join op.kind left right) rest
            (by simp only [List.length_append, List.length_cons]; omega)
        rw [Token.next_append] at walk
        refine ⟨op :: (used ++ behind), rest', result, ?_, .linked joins walk walkBehind⟩
        simp only [List.cons_append, List.append_assoc]
  · exact ⟨[], tokens, .ok left, rfl, .chainEnds joins⟩

/-- A factor can be walked over if primaries can, and factors with fewer tokens for the exponent.

Proof: the first token decides on a sign, which the dialect may have or not. Behind a primary, the
next one decides on a power, whose exponent has fewer tokens left. -/
theorem walked_factor
    (primary : ∀ rest, rest.length ≤ tokens.length → Walked dialect .primary rest)
    (factor : ∀ rest, rest.length < tokens.length → Walked dialect (.level .factor) rest) :
    Walked dialect (.level .factor) tokens := by
  by_cases signed : (Token.next tokens).kind = .minus
  · obtain ⟨sign, tokens, rfl, minus⟩ := exists_cons_of_next signed (by decide)
    cases enabled : dialect.negation with
    | false => exact ⟨[sign], tokens, _, rfl, .negationDisabled minus enabled⟩
    | true =>
      obtain ⟨used, rest, result, rfl, walk⟩ := primary tokens (by simp)
      cases result with
      | error problem => exact ⟨sign :: used, rest, _, rfl, .negationRefused enabled minus walk⟩
      | ok tree => exact ⟨sign :: used, rest, _, rfl, .negated enabled minus walk⟩
  · obtain ⟨used, rest, result, rfl, walk⟩ := primary tokens (Nat.le_refl _)
    rw [Token.next_append] at signed
    cases result with
    | error problem => exact ⟨used, rest, _, rfl, .baseRefused signed walk⟩
    | ok base =>
      by_cases raises : (Token.next rest).kind = .power
      · obtain ⟨op, rest, rfl, raises⟩ := exists_cons_of_next raises (by decide)
        obtain ⟨used', rest', result, rfl, walkExponent⟩ :=
          factor rest (by simp only [List.length_append, List.length_cons]; omega)
        have split : used ++ op :: (used' ++ rest') = used ++ op :: used' ++ rest' := by simp
        cases result with
        | error problem =>
          exact ⟨_, rest', _, split, .exponentRefused signed walk raises walkExponent⟩
        | ok exponent => exact ⟨_, rest', _, split, .raised signed walk raises walkExponent⟩
      · exact ⟨used, rest, _, rfl, .unraised signed walk raises⟩

/-- A primary can be walked over if expressions and calls with fewer tokens can. What begins none
is refused without a token. -/
theorem walked_primary
    (expression : ∀ rest, rest.length < tokens.length → Walked dialect (.level .expression) rest)
    (call : ∀ callee rest, rest.length < tokens.length → Walked dialect (.call callee) rest) :
    Walked dialect .primary tokens := by
  by_cases numeric : (Token.next tokens).kind = .number
  · obtain ⟨token, rest, rfl, numeric⟩ := exists_cons_of_next numeric (by decide)
    cases denotes : Number.ofNumeral? token.lexeme with
    | none => exact ⟨[token], rest, _, rfl, .malformed numeric denotes⟩
    | some value => exact ⟨[token], rest, _, rfl, .number numeric denotes⟩
  by_cases named : IsName dialect (Token.next tokens)
  · cases tokens with
    | nil => simp [IsName, Token.next, Token.missing] at named
    | cons token tokens =>
      by_cases opens : (Token.next tokens).kind = .leftParen
      · obtain ⟨opening, tokens, rfl, opens⟩ := exists_cons_of_next opens (by decide)
        obtain ⟨used, rest, result, rfl, walk⟩ :=
          call (Name.ofToken token) tokens (by simp only [List.length_cons]; omega)
        exact ⟨token :: opening :: used, rest, _, rfl, .called named opens walk⟩
      · exact ⟨[token], tokens, _, rfl, .name named opens⟩
  by_cases opens : (Token.next tokens).kind = .leftParen
  · obtain ⟨opening, tokens, rfl, opens⟩ := exists_cons_of_next opens (by decide)
    obtain ⟨used, rest, result, rfl, walk⟩ := expression tokens (by simp)
    cases result with
    | error problem => exact ⟨opening :: used, rest, _, rfl, .groupRefused opens walk⟩
    | ok tree =>
      by_cases closes : (Token.next rest).kind = .rightParen
      · obtain ⟨closing, rest, rfl, closes⟩ := exists_cons_of_next closes (by decide)
        refine ⟨opening :: (used ++ [closing]), rest, _, by simp, .grouped opens walk closes⟩
      · exact ⟨opening :: used, rest, _, rfl, .groupOpen opens walk closes⟩
  · exact ⟨[], tokens, _, rfl, .noPrimary numeric named opens⟩

/-- A call can be walked over if its arguments can. It is closed at once, or it has arguments and
is then closed or left open. -/
theorem walked_call (callee : Name) (arguments : Walked dialect .arguments tokens) :
    Walked dialect (.call callee) tokens := by
  by_cases empty : (Token.next tokens).kind = .rightParen
  · obtain ⟨closing, rest, rfl, closes⟩ := exists_cons_of_next empty (by decide)
    exact ⟨[closing], rest, _, rfl, .noArguments closes⟩
  · obtain ⟨used, rest, result, rfl, walk⟩ := arguments
    rw [Token.next_append] at empty
    cases result with
    | error problem => exact ⟨used, rest, _, rfl, .argumentsRefused empty walk⟩
    | ok args =>
      by_cases closes : (Token.next rest).kind = .rightParen
      · obtain ⟨closing, rest, rfl, closes⟩ := exists_cons_of_next closes (by decide)
        exact ⟨used ++ [closing], rest, _, by simp, .argumentsClosed empty walk closes⟩
      · exact ⟨used, rest, _, rfl, .argumentsOpen empty walk closes⟩

/-- Arguments can be walked over if the first of them can, and those behind a comma. -/
theorem walked_arguments (expression : Walked dialect (.level .expression) tokens)
    (arguments : ∀ rest, rest.length < tokens.length → Walked dialect .arguments rest) :
    Walked dialect .arguments tokens := by
  obtain ⟨used, rest, result, rfl, walk⟩ := expression
  cases result with
  | error problem => exact ⟨used, rest, _, rfl, .argumentRefused walk⟩
  | ok tree =>
    by_cases separates : (Token.next rest).kind = .comma
    · obtain ⟨comma, rest, rfl, separates⟩ := exists_cons_of_next separates (by decide)
      obtain ⟨used', rest', result, rfl, walkMore⟩ :=
        arguments rest (by simp only [List.length_append, List.length_cons]; omega)
      exact ⟨used ++ comma :: used', rest', _, by simp, .moreArguments walk separates walkMore⟩
    · exact ⟨used, rest, _, rfl, .lastArgument walk separates⟩

/-- How deep a phrase stands above what it may start with. -/
def rank : Phrase → Nat
  | more _ _ => 0
  | primary => 1
  | level .factor => 2
  | level .term => 3
  | level .expression => 4
  | arguments => 5
  | call _ => 6

/-- Every list of tokens can be walked over as any phrase, to a tree or to a diagnostic.

Proof: by recursion on the number of tokens and, for as many of them, on the rank of the phrase.
Each step leaves fewer tokens, or goes on with a phrase that the present one may start with. -/
theorem walked (phrase : Phrase) (tokens : List Token) : Walked dialect phrase tokens := by
  match phrase with
  | .level .expression =>
    exact walked_level .sum (walked (.level .term) tokens)
      fun left rest shorter => walked (.more .sum left) rest
  | .level .term =>
    exact walked_level .product (walked (.level .factor) tokens)
      fun left rest shorter => walked (.more .product left) rest
  | .level .factor =>
    exact walked_factor (fun rest shorter => walked .primary rest)
      fun rest shorter => walked (.level .factor) rest
  | .more chain left =>
    exact walked_more chain left (fun rest shorter => walked (.level chain.operand) rest)
      fun left rest shorter => walked (.more chain left) rest
  | .primary =>
    exact walked_primary (fun rest shorter => walked (.level .expression) rest)
      fun callee rest shorter => walked (.call callee) rest
  | .call callee => exact walked_call callee (walked .arguments tokens)
  | .arguments =>
    exact walked_arguments (walked (.level .expression) tokens)
      fun rest shorter => walked .arguments rest
termination_by (tokens.length, phrase.rank)
decreasing_by all_goals simp only [rank]; omega

end Phrase

end Astro.Reading
