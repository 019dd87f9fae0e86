import Astro.Proofs.Grammar

/-!
# What reading gives

A reading carries a bound on the tokens it leaves, for the sake of termination.
Here the bound is set aside: the outcome of a reading is its tree and place, or
its diagnostic, with the tokens left. Each reading function gets one equation
between outcomes. The equations speak of the next token of a list, and a list
without tokens needs no case of its own: what is seen behind its end is a token
that ends the input, and no phrase goes on with that.
-/

namespace Astro.Reading

/-- What reading a phrase gives, and the tokens that are left. -/
inductive Outcome (α : Type) where
  | read (value : α) (stop : Position) (rest : List Token)
  | refused (problem : Diagnostic) (rest : List Token)

namespace Outcome

variable {α β : Type}

/-- The outcome that ends at `stop` with a tree, or is refused. -/
def of (result : Except Diagnostic α) (stop : Position) (rest : List Token) : Outcome α :=
  match result with
  | .ok value => read value stop rest
  | .error problem => refused problem rest

/-- Go on reading behind a phrase, unless that was refused. -/
def bind (first : Outcome α) (behind : α → Position → List Token → Outcome β) : Outcome β :=
  match first with
  | read value stop rest => behind value stop rest
  | refused problem rest => refused problem rest

/-- Behind a phrase that was read, reading goes on with its tree, its end and the tokens left. -/
@[simp]
theorem bind_read (value : α) (stop : Position) (rest : List Token)
    (behind : α → Position → List Token → Outcome β) :
    (read value stop rest).bind behind = behind value stop rest := rfl

/-- The same outcome with another tree. Where reading stopped and what is left stay the same. -/
def map (f : α → β) (outcome : Outcome α) : Outcome β :=
  outcome.bind fun value stop rest => read (f value) stop rest

/-- An outcome with another tree is the outcome of the result with that tree. -/
theorem map_of (f : α → β) (result : Except Diagnostic α) (stop : Position) (rest : List Token) :
    (of result stop rest).map f = of (result.map f) stop rest := by
  cases result <;> rfl

end Outcome

variable {α β : Type} {bound wider : Nat}

/-- What a reading gives, without the bound on the tokens it leaves. -/
def outcome : Reading α bound → Outcome α
  | read value stop rest _ => .read value stop rest
  | refused problem rest _ => .refused problem rest

/-- A reading that ends with a tree has the outcome that this was read. -/
@[simp]
theorem outcome_read (value : α) (stop : Position) (rest : List Token) (fewer : rest.length < bound) :
    (read value stop rest fewer).outcome = .read value stop rest := rfl

/-- A reading with a wider bound on the tokens left has the same outcome. -/
@[simp]
theorem outcome_weaken (reading : Reading α bound) (within : bound ≤ wider) :
    (reading.weaken within).outcome = reading.outcome := by
  cases reading <;> rfl

/-- A reading with another tree has the outcome with that tree. -/
@[simp]
theorem outcome_map (f : α → β) (reading : Reading α bound) :
    (reading.map f).outcome = reading.outcome.map f := by
  cases reading <;> rfl

/-- A token of a kind is read exactly when it comes next. -/
theorem outcome_token (wanted : Token.Kind) (inner : wanted ≠ .endOfInput) (tokens : List Token) :
    (token wanted tokens).outcome =
      if (Token.next tokens).kind = wanted then
        .read (Token.next tokens) (Token.next tokens).span.stop tokens.tail
      else
        .refused ((Problem.expected wanted (Token.next tokens)).diagnostic (Token.next tokens).span)
          tokens := by
  cases tokens with
  | nil =>
    rw [if_neg fun same => inner same.symm]
    rfl
  | cons first rest =>
    by_cases found : first.kind = wanted <;> simp [token, Token.next, found, outcome]

/-- An expression is a term and the terms that are joined to it, from the left. -/
theorem outcome_expression (dialect : Dialect) (tokens : List Token) :
    (expression dialect tokens).outcome =
      (term dialect tokens).outcome.bind fun left stop rest =>
        (moreTerms dialect left stop rest).outcome := by
  rw [expression]
  cases term dialect tokens with
  | refused problem rest noMore => rfl
  | read left stop rest fewer => exact outcome_weaken _ _

/-- A term is a factor and the factors that are joined to it, from the left. -/
theorem outcome_term (dialect : Dialect) (tokens : List Token) :
    (term dialect tokens).outcome =
      (factor dialect tokens).outcome.bind fun left stop rest =>
        (moreFactors dialect left stop rest).outcome := by
  rw [term]
  cases factor dialect tokens with
  | refused problem rest noMore => rfl
  | read left stop rest fewer => exact outcome_weaken _ _

/-- Terms go on exactly when an operator between terms comes next. Then the next term is read and
joined to those before it, which makes the chain lean to the left. -/
theorem outcome_moreTerms (dialect : Dialect) (left : Expr) (stop : Position) (tokens : List Token) :
    (moreTerms dialect left stop tokens).outcome =
      if Dialect.joinsTerms (Token.next tokens).kind then
        (term dialect tokens.tail).outcome.bind fun right stop' rest =>
          (moreTerms dialect (Expr.join (Token.next tokens).kind left right) stop' rest).outcome
      else .read left stop tokens := by
  cases tokens with
  | nil =>
    rw [moreTerms]
    rfl
  | cons op rest =>
    rw [moreTerms]
    by_cases joins : Dialect.joinsTerms op.kind = true
    · simp only [↓reduceIte, Token.next, List.headD_cons, List.tail_cons, joins]
      cases term dialect rest with
      | refused problem rest' noMore => rfl
      | read right stop' rest' fewer => exact outcome_weaken _ _
    · simp only [Token.next, List.headD_cons, joins]
      rfl

/-- Factors go on exactly when an operator between factors comes next. Then the next factor is
read and joined to those before it. The dialect decides whether a remainder is such an operator. -/
theorem outcome_moreFactors (dialect : Dialect) (left : Expr) (stop : Position)
    (tokens : List Token) :
    (moreFactors dialect left stop tokens).outcome =
      if dialect.joinsFactors (Token.next tokens).kind then
        (factor dialect tokens.tail).outcome.bind fun right stop' rest =>
          (moreFactors dialect (Expr.join (Token.next tokens).kind left right) stop' rest).outcome
      else .read left stop tokens := by
  cases tokens with
  | nil =>
    rw [moreFactors]
    simp [Dialect.joinsFactors, Token.next, Token.missing, outcome]
  | cons op rest =>
    rw [moreFactors]
    by_cases joins : dialect.joinsFactors op.kind = true
    · simp only [↓reduceIte, Token.next, List.headD_cons, List.tail_cons, joins]
      cases factor dialect rest with
      | refused problem rest' noMore => rfl
      | read right stop' rest' fewer => exact outcome_weaken _ _
    · simp only [Token.next, List.headD_cons, joins]
      rfl

/-- A factor is a negated primary, or a primary that may be raised to a factor. A sign is read
only where the dialect has negation, and elsewhere it is refused. The exponent of a power is again
a factor, which makes powers lean to the right. -/
theorem outcome_factor (dialect : Dialect) (tokens : List Token) :
    (factor dialect tokens).outcome =
      if (Token.next tokens).kind = .minus then
        if dialect.negation then
          (primary dialect tokens.tail).outcome.map fun operand =>
            .unary ⟨(Token.next tokens).span.start, operand.span.stop⟩ .minus operand
        else .refused (Problem.negationDisabled.diagnostic (Token.next tokens).span) tokens.tail
      else
        (primary dialect tokens).outcome.bind fun base stop rest =>
          if (Token.next rest).kind = .power then
            (factor dialect rest.tail).outcome.map (Expr.join .power base)
          else .read base stop rest := by
  cases tokens with
  | nil =>
    rw [factor, primary]
    rfl
  | cons first rest =>
    rw [factor]
    by_cases minus : first.kind = .minus
    · by_cases enabled : dialect.negation = true
      · simp only [↓reduceIte, Token.next, List.headD_cons, List.tail_cons, minus, enabled]
        cases primary dialect rest <;> rfl
      · simp only [↓reduceIte, Token.next, List.headD_cons, List.tail_cons, minus, enabled]
        rfl
    · simp only [↓reduceIte, Token.next, List.headD_cons, minus]
      cases primary dialect (first :: rest) with
      | refused problem rest' noMore => rfl
      | read base stop rest' fewer =>
        cases rest' with
        | nil => rfl
        | cons op rest' =>
          by_cases power : op.kind = .power
          · simp only [↓reduceIte, outcome_read, Outcome.bind_read, List.headD_cons, List.tail_cons,
              power]
            cases factor dialect rest' <;> rfl
          · simp only [↓reduceIte, outcome_read, Outcome.bind_read, List.headD_cons, power]

/-- The next token alone decides which primary is read, or that none is. A number, a name, a call
and a group start differently. A name is a call when an opening parenthesis follows it. -/
theorem outcome_primary (dialect : Dialect) (tokens : List Token) :
    (primary dialect tokens).outcome =
      let first := Token.next tokens
      if first.kind = .number then
        match Number.ofNumeral? first.lexeme with
        | none => .refused ((Problem.malformedNumeral first.lexeme).diagnostic first.span) tokens.tail
        | some value => .read (.numeral first.span first.lexeme value) first.span.stop tokens.tail
      else if dialect.isName first then
        if (Token.next tokens.tail).kind = .leftParen then
          (call dialect (Name.ofToken first) tokens.tail.tail).outcome.map Call.toExpr
        else .read (.name (Name.ofToken first)) first.span.stop tokens.tail
      else if first.kind = .leftParen then
        (expression dialect tokens.tail).outcome.bind fun value _ rest =>
          (token .rightParen rest).outcome.map fun _ => value
      else .refused ((Problem.expectedExpression first).diagnostic first.span) tokens := by
  cases tokens with
  | nil =>
    rw [primary]
    rfl
  | cons first rest =>
    rw [primary]
    by_cases number : first.kind = .number
    · simp only [↓reduceIte, Token.next, List.headD_cons, List.tail_cons, number]
      cases Number.ofNumeral? first.lexeme <;> rfl
    · by_cases named : dialect.isName first = true
      · simp only [↓reduceIte, Token.next, List.headD_cons, List.tail_cons, number, named]
        cases rest with
        | nil => rfl
        | cons second rest =>
          by_cases opens : second.kind = .leftParen
          · simp only [↓reduceIte, List.headD_cons, List.tail_cons, opens, outcome_weaken,
              outcome_map]
            rfl
          · simp only [↓reduceIte, List.headD_cons, opens]
            rfl
      · by_cases opens : first.kind = .leftParen
        · simp only [↓reduceIte, Token.next, List.headD_cons, List.tail_cons, reduceCtorEq, named,
            opens]
          cases expression dialect rest with
          | refused problem rest' noMore => rfl
          | read value stop rest' fewer =>
            exact (outcome_weaken _ _).trans (outcome_map _ _)
        · simp only [↓reduceIte, Token.next, List.headD_cons, number, named, opens]
          rfl

/-- A call without arguments is closed at once; otherwise arguments are read. The span of the
arguments starts at the first of them and stops at the last one. Without arguments it is empty, at
the closing parenthesis. -/
theorem outcome_call (dialect : Dialect) (callee : Name) (tokens : List Token) :
    (call dialect callee tokens).outcome =
      let first := Token.next tokens
      let start := first.span.start
      if first.kind = .rightParen then
        .read ⟨⟨callee.span.start, first.span.stop⟩, callee, [], ⟨start, start⟩⟩ first.span.stop
          tokens.tail
      else
        (arguments dialect tokens).outcome.bind fun args stop rest =>
          (token .rightParen rest).outcome.map fun closing =>
            ⟨⟨callee.span.start, closing.span.stop⟩, callee, args, ⟨start, stop⟩⟩ := by
  cases tokens with
  | nil =>
    rw [call]
    cases arguments dialect [] with
    | refused problem rest noMore => rfl
    | read args stop rest fewer => exact absurd fewer (Nat.not_lt_zero _)
  | cons first rest =>
    rw [call]
    by_cases closes : first.kind = .rightParen
    · simp only [↓reduceIte, Token.next, List.headD_cons, List.tail_cons, closes]
      rfl
    · simp only [↓reduceIte, Token.next, List.headD_cons, closes]
      cases arguments dialect (first :: rest) with
      | refused problem rest' noMore => rfl
      | read args stop rest' fewer => exact (outcome_weaken _ _).trans (outcome_map _ _)

/-- Arguments go on exactly behind a comma, with the same function. -/
theorem outcome_arguments (dialect : Dialect) (tokens : List Token) :
    (arguments dialect tokens).outcome =
      (expression dialect tokens).outcome.bind fun first stop rest =>
        if (Token.next rest).kind = .comma then
          (arguments dialect rest.tail).outcome.map (first :: ·)
        else .read [first] stop rest := by
  rw [arguments]
  cases expression dialect tokens with
  | refused problem rest noMore => rfl
  | read first stop rest fewer =>
    cases rest with
    | nil => rfl
    | cons separator rest' =>
      by_cases comma : separator.kind = .comma
      · simp only [↓reduceIte, outcome_read, Outcome.bind_read, Token.next, List.headD_cons,
          List.tail_cons, comma, outcome_weaken, outcome_map]
      · simp only [↓reduceIte, outcome_read, Outcome.bind_read, Token.next, List.headD_cons, comma]

end Astro.Reading
