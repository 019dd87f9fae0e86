import Astro.Proofs.Derivation

/-!
# Walks over statements

Reading a statement is one more step above expressions and calls: a walk over its
parts and then a semicolon. A statement that is refused is left behind through
its semicolon, and reading goes on. So the statements of a program are read one
after another, each from the tokens up to a semicolon, and none of them reads
past the end of the input.
-/

namespace Astro

/-- A token that ends neither a statement nor the input. -/
def Token.Inside (token : Token) : Prop := token.kind ≠ .semicolon ∧ token.kind ≠ .endOfInput

/-- A segment goes up to its semicolon. No other semicolon stands in it, and nothing in it ends
the input. -/
def Token.Closed (segment : List Token) : Prop :=
  ∃ within ending, segment = within ++ [ending] ∧ (∀ token ∈ within, token.Inside) ∧
    ending.kind = .semicolon

namespace Reading

open Grammar

/-- A phrase and the semicolon behind it make a statement. -/
inductive Terminated (dialect : Dialect) (phrase : Phrase) (start : Position)
    (build : Span → phrase.Tree → Stmt) :
    List Token → Token → Except Diagnostic Stmt → Prop where
  | refused {used : List Token} {ahead : Token} {problem : Diagnostic}
      (walk : Walk dialect phrase used ahead (.error problem)) :
      Terminated dialect phrase start build used ahead (.error problem)
  | unended {used : List Token} {ahead : Token} {tree : phrase.Tree}
      (walk : Walk dialect phrase used ahead (.ok tree)) (goesOn : ahead.kind ≠ .semicolon) :
      Terminated dialect phrase start build used ahead
        (.error ((Problem.expected .semicolon ahead).diagnostic ahead.span))
  | ended {used : List Token} {ending ahead : Token} {tree : phrase.Tree}
      (walk : Walk dialect phrase used ending (.ok tree)) (ends : ending.kind = .semicolon) :
      Terminated dialect phrase start build (used ++ [ending]) ahead
        (.ok (build ⟨start, ending.span.stop⟩ tree))

/-- A statement is read from the tokens used, with one token ahead of them. A
statement that was refused has not yet been left behind. -/
inductive StatementWalk (dialect : Dialect) :
    List Token → Token → Except Diagnostic Stmt → Prop where
  | print {word ahead : Token} {used : List Token} {result : Except Diagnostic Stmt}
      (prints : word.kind = .printWord) (keyword : dialect.print = .keyword)
      (behind : Terminated dialect (.level .expression) word.span.start
        (fun span value => .print span value) used ahead result) :
      StatementWalk dialect (word :: used) ahead result
  | assign {name sign ahead : Token} {used : List Token} {result : Except Diagnostic Stmt}
      (named : IsName dialect name) (assigns : sign.kind = .assign)
      (behind : Terminated dialect (.level .expression) name.span.start
        (fun span value => .assign span (Name.ofToken name) value) used ahead result) :
      StatementWalk dialect (name :: sign :: used) ahead result
  | call {name opening ahead : Token} {used : List Token} {result : Except Diagnostic Stmt}
      (named : IsName dialect name) (opens : opening.kind = .leftParen)
      (behind : Terminated dialect (.call (Name.ofToken name)) name.span.start
        (fun span call => .call span call) used ahead result) :
      StatementWalk dialect (name :: opening :: used) ahead result
  | neither {name ahead : Token} (named : IsName dialect name) (noAssign : ahead.kind ≠ .assign)
      (noCall : ahead.kind ≠ .leftParen) :
      StatementWalk dialect [name] ahead
        (.error ((Problem.expectedAssignOrCall name.lexeme ahead).diagnostic ahead.span))
  | noStatement {ahead : Token} (noName : ¬ IsName dialect ahead)
      (noPrint : ¬ (ahead.kind = .printWord ∧ dialect.print = .keyword)) :
      StatementWalk dialect [] ahead
        (.error ((Problem.expectedStatement ahead).diagnostic ahead.span))

/-- The tokens left behind a statement: those behind it, or behind the semicolon
with which a refused one is left behind. -/
def leftBehind (result : Except Diagnostic Stmt) (rest : List Token) : List Token :=
  match result with
  | .ok _ => rest
  | .error _ => recover rest

/-- What comes of a statement, and the tokens left behind it. -/
def Outcome.settle : Outcome Stmt → Except Diagnostic Stmt × List Token
  | read value _ rest => (.ok value, rest)
  | refused problem rest => (.error problem, recover rest)

/-- A result whose rest is left behind settles as that result, with the tokens left behind it. -/
theorem Outcome.settle_of (result : Except Diagnostic Stmt) (stop : Position) (rest : List Token) :
    (Outcome.of result stop rest).settle = (result, leftBehind result rest) := by
  cases result <;> rfl

/-- What a reading settles as depends only on its outcome. -/
theorem settle_eq {bound : Nat} (reading : Reading Stmt bound) :
    ((settle reading).1, (settle reading).2.val) = reading.outcome.settle := by
  cases reading <;> rfl

/-- A semicolon is read behind a phrase that was read. -/
theorem outcome_terminated {α : Type} {bound : Nat} (start : Position) (build : Span → α → Stmt)
    (reading : Reading α bound) :
    (terminated start build reading).outcome =
      reading.outcome.bind fun value _ rest =>
        (token .semicolon rest).outcome.map fun ending => build ⟨start, ending.span.stop⟩ value := by
  cases reading with
  | refused problem rest noMore => rfl
  | read value stop rest fewer => exact (outcome_weaken _ (Nat.le_of_lt fewer)).trans (outcome_map _ _)

/-- A name that does not start a statement is refused where it cannot go on. -/
theorem outcome_afterName (dialect : Dialect) (name : Name) (tokens : List Token) :
    (afterName dialect name tokens).outcome =
      if (Token.next tokens).kind = .assign then
        (terminated name.span.start (fun span value => .assign span name value)
          (expression dialect tokens.tail)).outcome
      else if (Token.next tokens).kind = .leftParen then
        (terminated name.span.start (fun span call => .call span call)
          (call dialect name tokens.tail)).outcome
      else
        .refused ((Problem.expectedAssignOrCall name.text (Token.next tokens)).diagnostic
          (Token.next tokens).span) tokens := by
  cases tokens with
  | nil => rfl
  | cons first rest =>
    by_cases assigns : first.kind = .assign
    · simp only [↓reduceIte, afterName, Token.next_cons, List.tail_cons, assigns, outcome_weaken]
    · by_cases opens : first.kind = .leftParen
      · simp only [↓reduceIte, afterName, Token.next_cons, List.tail_cons, reduceCtorEq, opens,
          outcome_weaken]
      · simp only [↓reduceIte, afterName, Token.next_cons, assigns, opens]
        rfl

/-- A walk over a phrase and its semicolon determines what reading them gives. A refused phrase is
refused with its semicolon, a phrase without one is refused for that, and a phrase with one is
read to its end. -/
theorem Terminated.outcome_eq {dialect : Dialect} {phrase : Phrase} {start : Position}
    {build : Span → phrase.Tree → Stmt} {used rest : List Token} {ahead : Token}
    {result : Except Diagnostic Stmt} {bound : Nat}
    (walked : Terminated dialect phrase start build used ahead result)
    (next : Token.next rest = ahead) (before : Position) (reading : Reading phrase.Tree bound)
    (reads : reading.outcome = phrase.outcome dialect before (used ++ rest)) :
    ∃ stop, (terminated start build reading).outcome = .of result stop rest := by
  rw [outcome_terminated, reads]
  cases walked with
  | refused walk => exact ⟨before, congrArg (Outcome.bind · _) (walk.outcome_eq before rest next)⟩
  | unended walk goesOn =>
    subst next
    refine ⟨before, (congrArg (Outcome.bind · _) (walk.outcome_eq before rest rfl)).trans ?_⟩
    exact congrArg (Outcome.map _) ((outcome_token _ (by decide) rest).trans (if_neg goesOn))
  | @ended used ending _ tree walk ends =>
    rw [List.append_assoc]
    refine ⟨ending.span.stop,
      (congrArg (Outcome.bind · _) (walk.outcome_eq before (ending :: rest) rfl)).trans ?_⟩
    exact congrArg (Outcome.map _) ((outcome_token _ (by decide) (ending :: rest)).trans
      (if_pos ends))

/-- What is left behind a reading is settled by its outcome. -/
theorem settle_eq_of_outcome {bound : Nat} {reading : Reading Stmt bound}
    {result : Except Diagnostic Stmt} {rest : List Token}
    (reads : ∃ stop, reading.outcome = .of result stop rest) :
    (settle reading).1 = result ∧ (settle reading).2.val = leftBehind result rest := by
  obtain ⟨stop, same⟩ := reads
  have settled := settle_eq reading
  rw [same, Outcome.settle_of] at settled
  exact Prod.mk.inj settled

/-- A walk over a statement determines what comes of it and what is left behind it.

Proof: the first token selects the case that the walk took, since a name is not the reserved word
where that is one. The phrase behind it is read as the walk over it says. -/
theorem StatementWalk.statement_eq {dialect : Dialect} {used rest more : List Token}
    {ahead first : Token} {result : Except Diagnostic Stmt}
    (walk : StatementWalk dialect used ahead result) (next : Token.next rest = ahead)
    (split : used ++ rest = first :: more) (going : first.kind ≠ .endOfInput) :
    (statement dialect first more going).1 = result ∧
      (statement dialect first more going).2.val = leftBehind result rest := by
  have noPrint (named : IsName dialect first) :
      ¬ (first.kind = .printWord ∧ dialect.print = .keyword) := by
    rintro ⟨word, keyword⟩
    rcases named with plain | ⟨_, procedure⟩
    · simp [plain] at word
    · simp [keyword] at procedure
  unfold statement
  cases walk with
  | print prints keyword behind =>
    obtain ⟨rfl, rfl⟩ := List.cons.inj (split.symm.trans List.cons_append)
    rw [if_pos ⟨prints, keyword⟩]
    exact settle_eq_of_outcome (behind.outcome_eq next .nowhere (expression dialect _) rfl)
  | assign named assigns behind =>
    simp only [List.cons_append] at split
    obtain ⟨rfl, rfl⟩ := List.cons.inj split
    rw [if_neg (noPrint named), if_pos ((isName_iff dialect _).mpr named)]
    refine settle_eq_of_outcome ?_
    rw [outcome_afterName]
    simp only [Token.next_cons, List.tail_cons, assigns, ↓reduceIte]
    exact behind.outcome_eq next .nowhere (expression dialect _) rfl
  | call named opens behind =>
    simp only [List.cons_append] at split
    obtain ⟨rfl, rfl⟩ := List.cons.inj split
    rw [if_neg (noPrint named), if_pos ((isName_iff dialect _).mpr named)]
    refine settle_eq_of_outcome ?_
    rw [outcome_afterName]
    simp only [Token.next_cons, List.tail_cons, opens, reduceCtorEq, ↓reduceIte]
    exact behind.outcome_eq next .nowhere (Reading.call dialect _ _) rfl
  | neither named noAssign noCall =>
    simp only [List.cons_append] at split
    obtain ⟨rfl, rfl⟩ := List.cons.inj split
    rw [if_neg (noPrint named), if_pos ((isName_iff dialect _).mpr named)]
    refine settle_eq_of_outcome ⟨.nowhere, ?_⟩
    rw [outcome_afterName]
    subst next
    exact (if_neg noAssign).trans (if_neg noCall)
  | noStatement noName noPrint =>
    obtain rfl : rest = first :: more := split
    obtain rfl : first = ahead := next
    rw [if_neg noPrint, if_neg fun named => noName ((isName_iff dialect first).mp named)]
    exact ⟨rfl, rfl⟩

/-- Every phrase can be walked over together with its semicolon. -/
theorem exists_terminated (dialect : Dialect) (phrase : Phrase) (start : Position)
    (build : Span → phrase.Tree → Stmt) (tokens : List Token) :
    ∃ used rest result, tokens = used ++ rest ∧
      Terminated dialect phrase start build used (Token.next rest) result := by
  obtain ⟨used, rest, result, rfl, walk⟩ := @Phrase.walked dialect phrase tokens
  cases result with
  | error problem => exact ⟨used, rest, .error problem, rfl, .refused walk⟩
  | ok tree =>
    by_cases ends : (Token.next rest).kind = .semicolon
    · obtain ⟨ending, rest, rfl, ends⟩ := exists_cons_of_next ends (by decide)
      exact ⟨used ++ [ending], rest, _, by simp, .ended walk ends⟩
    · exact ⟨used, rest, _, rfl, .unended walk ends⟩

/-- Every list of tokens can be walked over as a statement.

Proof: the first token and, behind a name, the second one select the rule. The phrase behind them
can be walked over, and so can the semicolon or what stands in its place. -/
theorem exists_statementWalk (dialect : Dialect) (tokens : List Token) :
    ∃ used rest result, tokens = used ++ rest ∧
      StatementWalk dialect used (Token.next rest) result := by
  by_cases prints : (Token.next tokens).kind = .printWord ∧ dialect.print = .keyword
  · obtain ⟨word, tokens, rfl, kind⟩ := exists_cons_of_next prints.1 (by decide)
    obtain ⟨used, rest, result, rfl, behind⟩ := exists_terminated dialect (.level .expression)
      word.span.start (fun span value => .print span value) tokens
    exact ⟨word :: used, rest, result, rfl, .print kind prints.2 behind⟩
  by_cases named : IsName dialect (Token.next tokens)
  · cases tokens with
    | nil => simp [IsName, Token.next, Token.missing] at named
    | cons name tokens =>
      by_cases assigns : (Token.next tokens).kind = .assign
      · obtain ⟨sign, tokens, rfl, assigns⟩ := exists_cons_of_next assigns (by decide)
        obtain ⟨used, rest, result, rfl, behind⟩ := exists_terminated dialect (.level .expression)
          name.span.start (fun span value => .assign span (Name.ofToken name) value) tokens
        exact ⟨name :: sign :: used, rest, result, rfl, .assign named assigns behind⟩
      by_cases opens : (Token.next tokens).kind = .leftParen
      · obtain ⟨opening, tokens, rfl, opens⟩ := exists_cons_of_next opens (by decide)
        obtain ⟨used, rest, result, rfl, behind⟩ := exists_terminated dialect
          (.call (Name.ofToken name)) name.span.start (fun span call => .call span call) tokens
        exact ⟨name :: opening :: used, rest, result, rfl, .call named opens behind⟩
      · exact ⟨[name], tokens, _, rfl, .neither named assigns opens⟩
  · exact ⟨[], tokens, _, rfl, .noStatement named prints⟩

/-- Nothing is read at the end of the input. Tokens behind it are not looked at. -/
theorem statements_end (dialect : Dialect) {tokens : List Token}
    (ends : (Token.next tokens).kind = .endOfInput) : statements dialect tokens = [] := by
  cases tokens with
  | nil => rw [statements]
  | cons first rest =>
    have atEnd : first.kind = .endOfInput := ends
    rw [statements, dif_pos atEnd]

/-- Before the end of the input, a walk over a statement gives the first outcome,
and the others come from what is left behind it. -/
theorem StatementWalk.statements_eq {dialect : Dialect} {used rest : List Token} {ahead : Token}
    {result : Except Diagnostic Stmt} (walk : StatementWalk dialect used ahead result)
    (next : Token.next rest = ahead) (going : (Token.next (used ++ rest)).kind ≠ .endOfInput) :
    statements dialect (used ++ rest) = result :: statements dialect (leftBehind result rest) := by
  cases split : used ++ rest with
  | nil =>
    rw [split] at going
    exact absurd rfl going
  | cons first more =>
    have notYet : first.kind ≠ .endOfInput := by
      rw [split] at going
      exact going
    obtain ⟨outcome, left⟩ := walk.statement_eq next split notYet
    rw [statements, dif_neg notYet]
    simp only [outcome, left]

/-- Statements are there to be read exactly before the end of the input. -/
theorem statements_eq_nil_iff (dialect : Dialect) (tokens : List Token) :
    statements dialect tokens = [] ↔ (Token.next tokens).kind = .endOfInput := by
  refine ⟨fun nothing => Decidable.byContradiction fun going => ?_, statements_end dialect⟩
  obtain ⟨used, rest, result, rfl, walk⟩ := exists_statementWalk dialect tokens
  rw [walk.statements_eq rfl going] at nothing
  exact List.cons_ne_nil _ _ nothing

/-- A name stands inside its statement. It is neither a semicolon nor what ends the input. -/
theorem inside_of_isName {dialect : Dialect} {token : Token} (named : IsName dialect token) :
    token.Inside := by
  rcases named with kind | ⟨kind, _⟩ <;> simp [Token.Inside, kind]

/-- An operator of a chain stands inside its statement. It is neither a semicolon nor what ends
the input. -/
theorem inside_of_joins {dialect : Dialect} {chain : Chain} {op : Token}
    (joins : chain.Joins dialect op) : op.Inside := by
  cases chain with
  | sum => rcases joins with kind | kind <;> simp [Token.Inside, kind]
  | product => rcases joins with kind | kind | ⟨kind, _⟩ <;> simp [Token.Inside, kind]

/-- A walk over a phrase stays inside one statement.

Proof: induction on the walk. None of the tokens that its rules use is a semicolon, and none ends
the input. -/
theorem Walk.inside {dialect : Dialect} {phrase : Phrase} {used : List Token} {ahead : Token}
    {result : Except Diagnostic phrase.Tree} (walk : Walk dialect phrase used ahead result) :
    ∀ token ∈ used, token.Inside := by
  have name {token : Token} (named : IsName dialect token) : token.Inside := inside_of_isName named
  have joint {chain : Chain} {op : Token} (joins : chain.Joins dialect op) : op.Inside :=
    inside_of_joins joins
  induction walk with
  | operandRefused operand inside => exact inside
  | chained operand behind first second => grind
  | chainEnds ends => simp
  | linkRefused joins operand inside => grind
  | linked joins operand behind first second => grind
  | baseRefused unsigned base inside => exact inside
  | unraised unsigned base ends inside => exact inside
  | argumentsRefused some listed inside => exact inside
  | argumentsOpen some listed unclosed inside => exact inside
  | argumentRefused first inside => exact inside
  | lastArgument first ends inside => exact inside
  | name named ends => grind
  | noPrimary noNumber noName noGroup => simp
  | _ => grind [Token.Inside]

/-- The tokens that a statement uses: those inside it and, when it was read to its
end, its semicolon. -/
def Confined (used : List Token) : Except Diagnostic Stmt → Prop
  | .error _ => ∀ token ∈ used, token.Inside
  | .ok _ => ∃ within ending, used = within ++ [ending] ∧ (∀ token ∈ within, token.Inside) ∧
      ending.kind = .semicolon

/-- What is used before a confined stretch and inside the statement belongs to it. -/
theorem Confined.cons {used : List Token} {result : Except Diagnostic Stmt} {token : Token}
    (inside : token.Inside) (confined : Confined used result) : Confined (token :: used) result := by
  cases result with
  | error problem => exact List.forall_mem_cons.mpr ⟨inside, confined⟩
  | ok stmt =>
    obtain ⟨within, ending, rfl, others, ends⟩ := confined
    exact ⟨token :: within, ending, rfl, List.forall_mem_cons.mpr ⟨inside, others⟩, ends⟩

/-- A walk over a phrase and its semicolon goes no further than this semicolon. -/
theorem Terminated.confined {dialect : Dialect} {phrase : Phrase} {start : Position}
    {build : Span → phrase.Tree → Stmt} {used : List Token} {ahead : Token}
    {result : Except Diagnostic Stmt}
    (walked : Terminated dialect phrase start build used ahead result) : Confined used result := by
  cases walked with
  | refused walk => exact walk.inside
  | unended walk goesOn => exact walk.inside
  | ended walk ends => exact ⟨_, _, rfl, walk.inside, ends⟩

/-- A walk over a statement goes no further than its semicolon. -/
theorem StatementWalk.confined {dialect : Dialect} {used : List Token} {ahead : Token}
    {result : Except Diagnostic Stmt} (walk : StatementWalk dialect used ahead result) :
    Confined used result := by
  cases walk with
  | print prints keyword behind => exact behind.confined.cons (by simp [Token.Inside, prints])
  | assign named assigns behind =>
    exact (behind.confined.cons (by simp [Token.Inside, assigns])).cons (inside_of_isName named)
  | call named opens behind =>
    exact (behind.confined.cons (by simp [Token.Inside, opens])).cons (inside_of_isName named)
  | neither named noAssign noCall => exact List.forall_mem_singleton.mpr (inside_of_isName named)
  | noStatement noName noPrint => exact List.forall_mem_nil _

/-- The tokens that a statement uses do not end the input. -/
theorem Confined.going {used : List Token} {result : Except Diagnostic Stmt}
    (confined : Confined used result) : ∀ token ∈ used, token.kind ≠ .endOfInput := by
  cases result with
  | error problem => exact fun token member => (confined token member).2
  | ok stmt =>
    obtain ⟨within, ending, rfl, inside, ends⟩ := confined
    intro token member
    rcases List.mem_append.mp member with earlier | last
    · exact (inside token earlier).2
    · rw [List.mem_singleton.mp last, ends]
      decide

/-- A statement before the end of the input leaves fewer tokens behind. A statement that is read
has used its semicolon. A refused one has used a token, or recovery drops the one ahead, which
does not end the input. -/
theorem StatementWalk.fewer {dialect : Dialect} {used rest : List Token} {ahead : Token}
    {result : Except Diagnostic Stmt} (walk : StatementWalk dialect used ahead result)
    (going : (Token.next (used ++ rest)).kind ≠ .endOfInput) :
    (leftBehind result rest).length < (used ++ rest).length := by
  rw [List.length_append]
  cases result with
  | ok stmt =>
    obtain ⟨within, ending, rfl, inside, ends⟩ := walk.confined
    simp only [leftBehind, List.length_append, List.length_singleton]
    omega
  | error problem =>
    cases used with
    | cons first others =>
      have noMore := length_recover_le rest
      simp only [leftBehind, List.length_cons]
      omega
    | nil =>
      cases rest with
      | nil => exact absurd rfl going
      | cons first others =>
        have fewer := length_recover_lt first others going
        simpa only [leftBehind, List.length_nil, Nat.zero_add] using fewer

/-- What holds at the end of the input, and before a statement whenever it holds of what
is left behind that, holds of all lists of tokens. -/
theorem statements_induction (dialect : Dialect) {holds : List Token → Prop}
    (ended : ∀ tokens, (Token.next tokens).kind = .endOfInput → holds tokens)
    (statement : ∀ used rest result, StatementWalk dialect used (Token.next rest) result →
      (Token.next (used ++ rest)).kind ≠ .endOfInput →
      holds (leftBehind result rest) → holds (used ++ rest))
    (tokens : List Token) : holds tokens := by
  induction size : tokens.length using Nat.strongRecOn generalizing tokens with
  | ind count shorter =>
    by_cases ends : (Token.next tokens).kind = .endOfInput
    · exact ended tokens ends
    · obtain ⟨used, rest, result, rfl, walk⟩ := exists_statementWalk dialect tokens
      exact statement used rest result walk ends (shorter _ (size ▸ walk.fewer ends) _ rfl)

/-- A walk to a statement follows a derivation of that statement. Each form of statement is walked
over by a rule of its own, and so is it derived. -/
theorem StatementWalk.derived {dialect : Dialect} {used : List Token} {ahead : Token} {stmt : Stmt}
    (walk : StatementWalk dialect used ahead (.ok stmt)) : Statement dialect used stmt := by
  cases walk with
  | print prints keyword behind =>
    cases behind with
    | ended walk ends => exact .print keyword prints (walk.derived _ rfl) ends
  | assign named assigns behind =>
    cases behind with
    | ended walk ends => exact .assign named assigns (walk.derived _ rfl) ends
  | call named opens behind =>
    cases behind with
    | ended walk ends =>
      obtain ⟨within, closing, args, rfl, listed, closes, rfl⟩ := walk.derived _ rfl
      exact .call named opens listed closes ends

end Reading

end Astro

namespace Astro.Grammar

open Reading

/-- A derived statement is read whole, whatever stands behind it. -/
theorem Statement.walk {dialect : Dialect} {tokens : List Token} {stmt : Stmt}
    (derived : Statement dialect tokens stmt) (ahead : Token) :
    StatementWalk dialect tokens ahead (.ok stmt) := by
  cases derived with
  | assign named assigns assigned ends =>
    exact .assign named assigns (.ended (assigned.extends.walkTo (.inr (.inr ends))) ends)
  | call named opens listed closes ends =>
    exact .call named opens (.ended (listed.walk _ closes) ends)
  | print keyword prints printed ends =>
    exact .print prints keyword (.ended (printed.extends.walkTo (.inr (.inr ends))) ends)

end Astro.Grammar
