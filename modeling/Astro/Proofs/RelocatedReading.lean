import Astro.Proofs.Relocation
import Astro.Proofs.StatementWalk

/-!
# Reading tokens at other places

Reading looks at the kinds and spellings of tokens and carries their places along;
it compares places only to join the spans of two operands. So a regular move of
the tokens moves everything that is read from them and everything that is
reported about them, and changes nothing else. Every walk can be moved, rule by
rule, and the statements of a list of tokens follow.

The one place that does not come from a token is that of the missing token behind
a list that does not end properly. Lists that end the input never show it.
-/

namespace Astro

variable (move : Position → Position)

/-- A relocated token is of the same kind. The kind decides on most steps of reading. -/
@[simp]
theorem Token.relocate_kind (token : Token) : (token.relocate move).kind = token.kind := rfl

/-- A relocated token has the same spelling. Names and messages are made from it. -/
@[simp]
theorem Token.relocate_lexeme (token : Token) : (token.relocate move).lexeme = token.lexeme := rfl

/-- The next of some moved tokens is the next one, moved. -/
theorem Token.next_relocate (tokens : List Token) (ahead : Token) :
    next (tokens.map (Token.relocate move) ++ [ahead.relocate move]) =
      (next (tokens ++ [ahead])).relocate move := by
  cases tokens <;> rfl

/-- Moved tokens end at the moved end. Without tokens it is the place before them, which is moved
as well. -/
theorem Token.lastStop_relocate (before : Position) (tokens : List Token) :
    lastStop (move before) (tokens.map (Token.relocate move)) = move (lastStop before tokens) := by
  induction tokens generalizing before with
  | nil => rfl
  | cons first rest others => exact others first.span.stop

/-- An expression at another place covers its span there. Moving an expression moves the span of
each node. -/
theorem Expr.span_relocate (expr : Expr) : (expr.relocate move).span = expr.span.relocate move := by
  cases expr <;> simp only [Expr.relocate, Expr.span, Name.relocate]

/-- Operands that are moved regularly are joined at their new places. -/
theorem Expr.join_relocate {move : Position → Position} (regular : Regular move)
    (op : Token.Kind) (left right : Expr) :
    (Expr.join op left right).relocate move =
      Expr.join op (left.relocate move) (right.relocate move) := by
  have joined := regular left.span right.span
  simp only [Expr.join, Expr.relocate, Expr.span_relocate, joined]

/-- A call between moved tokens is the moved call. Its span and the stretch of its arguments are
found from the tokens' own. -/
theorem Call.between_relocate (callee : Name) (within : List Token) (close : Token)
    (args : List Expr) :
    (Call.between callee within close args).relocate move =
      Call.between (callee.relocate move) (within.map (Token.relocate move)) (close.relocate move)
        (Expr.relocateAll move args) := by
  simp only [Call.between, Call.relocate, Span.relocate, Name.relocate, Token.next_relocate,
    ← Token.lastStop_relocate]
  rfl

namespace Reading

open Grammar

/-- A phrase at another place. Only the operand of a chain and the callee of a call have places in
them. -/
def Phrase.relocate : Phrase → Phrase
  | level height => level height
  | more chain left => more chain (left.relocate move)
  | primary => primary
  | call callee => call (callee.relocate move)
  | arguments => arguments

/-- What comes of reading, at another place. It is the moved tree, or the diagnostic at the moved
place. -/
def relocateResult {α : Type} (tree : α → α) : Except Diagnostic α → Except Diagnostic α
  | .ok value => .ok (tree value)
  | .error problem => .error (problem.relocate move)

/-- What comes of reading a phrase, at another place. -/
def Phrase.relocateResult : (phrase : Phrase) →
    Except Diagnostic phrase.Tree → Except Diagnostic (phrase.relocate move).Tree
  | level _, result => Reading.relocateResult move (Expr.relocate move) result
  | more _ _, result => Reading.relocateResult move (Expr.relocate move) result
  | primary, result => Reading.relocateResult move (Expr.relocate move) result
  | call _, result => Reading.relocateResult move (Call.relocate move) result
  | arguments, result => Reading.relocateResult move (Expr.relocateAll move) result

/-- Operators join wherever they stand. -/
theorem Chain.joins_relocate {dialect : Dialect} (chain : Chain) (op : Token) :
    chain.Joins dialect (op.relocate move) ↔ chain.Joins dialect op := by
  cases chain <;> exact Iff.rfl

/-- More of a chain is read behind the same tree. -/
theorem Walk.of_left_eq {dialect : Dialect} {chain : Chain} {left same : Expr} {used : List Token}
    {ahead : Token} {result : Except Diagnostic Expr} (equal : left = same)
    (walk : Walk dialect (.more chain left) used ahead result) :
    Walk dialect (.more chain same) used ahead result := by
  subst equal
  exact walk

/-- A walk over moved tokens is the same walk, moved.

Proof: induction on the walk. Its rules look at the kinds and the lexemes of tokens, which do not
move, and put spans together from their ends, which move with them. -/
theorem Walk.relocate {move : Position → Position} (regular : Regular move) {dialect : Dialect}
    {phrase : Phrase} {used : List Token} {ahead : Token}
    {result : Except Diagnostic phrase.Tree} (walk : Walk dialect phrase used ahead result) :
    Walk dialect (phrase.relocate move) (used.map (Token.relocate move)) (ahead.relocate move)
      (phrase.relocateResult move result) := by
  induction walk with
  | operandRefused operand moved => exact .operandRefused moved
  | @chained chain used more ahead left result operand behind operandMoved behindMoved =>
    rw [List.map_append]
    rw [← Token.next_relocate] at operandMoved
    exact .chained operandMoved behindMoved
  | @chainEnds chain ahead left ends =>
    exact .chainEnds fun joins => ends ((chain.joins_relocate move ahead).mp joins)
  | @linkRefused chain op used ahead left problem joins operand moved =>
    exact .linkRefused ((chain.joins_relocate move op).mpr joins) moved
  | @linked chain op used more ahead left right result joins operand behind operandMoved
      behindMoved =>
    rw [List.map_cons, List.map_append]
    rw [← Token.next_relocate] at operandMoved
    have joined := Expr.join_relocate regular op.kind left right
    exact .linked ((chain.joins_relocate move op).mpr joins) operandMoved
      (behindMoved.of_left_eq joined)
  | negationDisabled minus disabled => exact .negationDisabled minus disabled
  | negationRefused enabled minus operand moved => exact .negationRefused enabled minus moved
  | @negated sign used ahead tree enabled minus operand moved =>
    have covers := tree.span_relocate move
    have shown := @Walk.negated dialect (sign.relocate move) _ _ _ enabled minus moved
    rw [covers] at shown
    exact shown
  | @baseRefused used ahead problem unsigned base moved =>
    rw [← Token.relocate_kind move, ← Token.next_relocate] at unsigned
    exact .baseRefused unsigned moved
  | @unraised used ahead tree unsigned base ends moved =>
    rw [← Token.relocate_kind move, ← Token.next_relocate] at unsigned
    exact .unraised unsigned moved ends
  | @exponentRefused used more op ahead tree problem unsigned base raises exponent baseMoved
      exponentMoved =>
    rw [← Token.relocate_kind move, ← Token.next_relocate] at unsigned
    rw [List.map_append]
    exact .exponentRefused unsigned baseMoved raises exponentMoved
  | @raised used more op ahead tree power unsigned base raises exponent baseMoved exponentMoved =>
    rw [← Token.relocate_kind move, ← Token.next_relocate] at unsigned
    have joined := Expr.join_relocate regular .power tree power
    have shown := Walk.raised unsigned baseMoved raises exponentMoved
    rw [← joined] at shown
    rw [List.map_append]
    exact shown
  | malformed numeric meaningless => exact .malformed numeric meaningless
  | number numeric denotes => exact .number numeric denotes
  | name named ends => exact .name named ends
  | @called token opening ahead used result named opens behind moved =>
    have shown := @Walk.called dialect (token.relocate move) (opening.relocate move) _ _ _ named
      opens moved
    cases result with
    | error problem => exact shown
    | ok call => exact shown
  | groupRefused opens grouped moved => exact .groupRefused opens moved
  | groupOpen opens grouped unclosed moved => exact .groupOpen opens moved unclosed
  | @grouped opening closing ahead used tree opens grouped closes moved =>
    rw [List.map_cons, List.map_append]
    exact .grouped opens moved closes
  | noPrimary noNumber noName noGroup => exact .noPrimary noNumber noName noGroup
  | @noArguments callee closing ahead closes =>
    have shown := @Walk.noArguments dialect (callee.relocate move) (closing.relocate move)
      (ahead.relocate move) closes
    exact shown
  | @argumentsRefused callee used ahead problem some listed moved =>
    rw [← Token.relocate_kind move, ← Token.next_relocate] at some
    exact .argumentsRefused some moved
  | @argumentsOpen callee used ahead args some listed unclosed moved =>
    rw [← Token.relocate_kind move, ← Token.next_relocate] at some
    exact .argumentsOpen some moved unclosed
  | @argumentsClosed callee used closing ahead args some listed closes moved =>
    rw [← Token.relocate_kind move, ← Token.next_relocate] at some
    have shown := @Walk.argumentsClosed dialect (callee.relocate move) _ _ (ahead.relocate move) _
      some moved closes
    rw [← Call.between_relocate] at shown
    rw [List.map_append]
    exact shown
  | argumentRefused first moved => exact .argumentRefused moved
  | lastArgument first ends moved => exact .lastArgument moved ends
  | @moreArguments used more comma ahead tree result first separates behind firstMoved
      behindMoved =>
    have shown := @Walk.moreArguments dialect _ _ (comma.relocate move) _ _ _ firstMoved separates
      behindMoved
    rw [List.map_append]
    cases result with
    | error problem => exact shown
    | ok args => exact shown

/-- A phrase that is refused is refused at the other place. -/
theorem Phrase.relocateResult_error (phrase : Phrase) (problem : Diagnostic) :
    phrase.relocateResult move (.error problem) = .error (problem.relocate move) := by
  cases phrase <;> rfl

/-- A phrase that is read is read at the other place. -/
theorem Phrase.exists_relocateResult (phrase : Phrase) (tree : phrase.Tree) :
    ∃ moved, phrase.relocateResult move (.ok tree) = .ok moved := by
  cases phrase <;> exact ⟨_, rfl⟩

/-- A phrase and its semicolon, moved. The span of the statement starts where the statement does
and stops behind its semicolon, both of them moved. -/
theorem Terminated.relocate {move : Position → Position} (regular : Regular move)
    {dialect : Dialect} {phrase : Phrase} {start : Position} {build : Span → phrase.Tree → Stmt}
    {movedBuild : Span → (phrase.relocate move).Tree → Stmt}
    (built : ∀ span tree moved, phrase.relocateResult move (.ok tree) = .ok moved →
      (build span tree).relocate move = movedBuild (span.relocate move) moved)
    {used : List Token} {ahead : Token} {result : Except Diagnostic Stmt}
    (walked : Terminated dialect phrase start build used ahead result) :
    Terminated dialect (phrase.relocate move) (move start) movedBuild
      (used.map (Token.relocate move)) (ahead.relocate move)
      (relocateResult move (Stmt.relocate move) result) := by
  cases walked with
  | refused walk =>
    have moved := walk.relocate regular
    rw [Phrase.relocateResult_error] at moved
    exact .refused moved
  | unended walk goesOn =>
    obtain ⟨tree, same⟩ := phrase.exists_relocateResult move _
    have moved := walk.relocate regular
    rw [same] at moved
    exact .unended moved goesOn
  | @ended used ending ahead tree walk ends =>
    obtain ⟨movedTree, same⟩ := phrase.exists_relocateResult move tree
    have moved := walk.relocate regular
    rw [same] at moved
    have shown := @Terminated.ended dialect _ (move start) movedBuild _ (ending.relocate move)
      (ahead.relocate move) _ moved ends
    have whole := built ⟨start, ending.span.stop⟩ tree movedTree same
    rw [List.map_append, relocateResult, whole]
    exact shown

/-- A walk over a moved statement is the same walk, moved. Each form starts with the same kinds of
tokens, and the statement that is built from the parts is the moved one. -/
theorem StatementWalk.relocate {move : Position → Position} (regular : Regular move)
    {dialect : Dialect} {used : List Token} {ahead : Token} {result : Except Diagnostic Stmt}
    (walk : StatementWalk dialect used ahead result) :
    StatementWalk dialect (used.map (Token.relocate move)) (ahead.relocate move)
      (relocateResult move (Stmt.relocate move) result) := by
  cases walk with
  | print prints keyword behind =>
    refine .print prints keyword (behind.relocate regular ?_)
    intro span tree moved same
    cases same
    rfl
  | assign named assigns behind =>
    refine .assign named assigns (behind.relocate regular ?_)
    intro span tree moved same
    cases same
    rfl
  | call named opens behind =>
    refine .call named opens (behind.relocate regular ?_)
    intro span tree moved same
    cases same
    rfl
  | neither named noAssign noCall => exact .neither named noAssign noCall
  | noStatement noName noPrint => exact .noStatement noName noPrint

/-- Recovery stops at the same token. It looks only at the kinds of tokens. -/
theorem recover_relocate (tokens : List Token) :
    recover (tokens.map (Token.relocate move)) = (recover tokens).map (Token.relocate move) := by
  induction tokens with
  | nil => rfl
  | cons first rest others =>
    simp only [List.map_cons, recover, Token.relocate_kind, others]
    split
    · rfl
    · split <;> rfl

/-- What is left behind a moved statement is what is left behind it, moved. -/
theorem leftBehind_relocate (result : Except Diagnostic Stmt) (rest : List Token) :
    leftBehind (relocateResult move (Stmt.relocate move) result)
        (rest.map (Token.relocate move)) =
      (leftBehind result rest).map (Token.relocate move) := by
  cases result with
  | ok stmt => rfl
  | error problem => exact recover_relocate move rest

/-- Recovery does not pass the end of the input. It stops before a token that ends the input, or
behind a semicolon that stands before one. -/
theorem ends_recover {tokens : List Token} (ends : ∃ token ∈ tokens, token.kind = .endOfInput) :
    ∃ token ∈ recover tokens, token.kind = .endOfInput := by
  induction tokens with
  | nil => exact ends
  | cons first rest others =>
    unfold recover
    split
    · exact ends
    · next going =>
      obtain ⟨token, member, kind⟩ := ends
      have later : token ∈ rest := by
        rcases List.mem_cons.mp member with rfl | later
        · exact absurd kind going
        · exact later
      split
      · exact ⟨token, later, kind⟩
      · exact others ⟨token, later, kind⟩

/-- What is left behind a statement still ends the input. -/
theorem StatementWalk.ends_leftBehind {dialect : Dialect} {used rest : List Token} {ahead : Token}
    {result : Except Diagnostic Stmt} (walk : StatementWalk dialect used ahead result)
    (ends : ∃ token ∈ used ++ rest, token.kind = .endOfInput) :
    rest ≠ [] ∧ ∃ token ∈ leftBehind result rest, token.kind = .endOfInput := by
  obtain ⟨token, member, kind⟩ := ends
  have later : token ∈ rest := by
    rcases List.mem_append.mp member with earlier | later
    · exact absurd kind (walk.confined.going token earlier)
    · exact later
  refine ⟨List.ne_nil_of_mem later, ?_⟩
  cases result with
  | ok stmt => exact ⟨token, later, kind⟩
  | error problem => exact ends_recover ⟨token, later, kind⟩

/-- Statements of moved tokens that end the input are the moved statements.

Proof: induction on the statements. Each is walked over by the same rules, and what is left behind
it are the moved tokens. -/
theorem statements_relocate {move : Position → Position} (regular : Regular move)
    (dialect : Dialect) {tokens : List Token} (ends : ∃ token ∈ tokens, token.kind = .endOfInput) :
    statements dialect (tokens.map (Token.relocate move)) =
      (statements dialect tokens).map (relocateResult move (Stmt.relocate move)) := by
  have next {tokens : List Token} (some : tokens ≠ []) :
      Token.next (tokens.map (Token.relocate move)) = (Token.next tokens).relocate move := by
    cases tokens with
    | nil => exact absurd rfl some
    | cons first rest => rfl
  induction tokens using statements_induction dialect with
  | ended tokens atEnd =>
    obtain ⟨token, member, -⟩ := ends
    have movedEnd : (Token.next (tokens.map (Token.relocate move))).kind = .endOfInput := by
      rw [next (List.ne_nil_of_mem member)]
      exact atEnd
    rw [statements_end dialect atEnd, statements_end dialect movedEnd, List.map_nil]
  | statement used rest result walk going behind =>
    obtain ⟨some, later⟩ := walk.ends_leftBehind ends
    have movedGoing : (Token.next (used.map (Token.relocate move) ++
        rest.map (Token.relocate move))).kind ≠ .endOfInput := by
      rw [← List.map_append, next (List.append_ne_nil_of_right_ne_nil used some)]
      exact going
    have moved := (walk.relocate regular).statements_eq (next some) movedGoing
    rw [List.map_append, moved, walk.statements_eq rfl going, leftBehind_relocate, behind later,
      List.map_cons]

end Reading

end Astro
