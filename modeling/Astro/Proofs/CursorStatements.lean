import Astro.Proofs.CursorReading

/-!
# Reading programs with a cursor

Statements are read once more with an index into the tokens. Where one cannot be read, the
index moves on behind the next semicolon, in a loop that is given without a reason to end.

No access fails and every loop ends, whatever the tokens are, and what is read is the
program that the tokens spell (`program?_eq`).
-/

namespace Astro.Checked

open Reading Grammar Tokens

variable {α : Type}

section Reading

variable (dialect : Dialect) (tokens : List Token)

/-- Go over tokens through the next semicolon. -/
def Tokens.synchronize (tokens : Tokens) : Parse Unit := do
  let token ← look tokens
  if token.kind = .endOfInput then return ()
  else do
    let token ← advance tokens
    if token.kind = .semicolon then return ()
    else tokens |>.synchronize
partial_fixpoint

/-- Read no statement, and go on behind the next semicolon. -/
def abandon : Parse (Option Stmt) := do
  synchronize tokens
  return none

/-- Read the semicolon behind what was read, if anything was. -/
def terminate (start : Position) (build : Span → α → Stmt) (value : Option α) :
    Parse (Option Stmt) :=
  if value.isNone then abandon tokens
  else do
    let ending ← expect tokens .semicolon
    if ending.isNone then abandon tokens
    else do
      let value ← deref value
      let stop ← previousStop tokens
      return some (build ⟨start, stop⟩ value)

/-- Read a statement that starts with a name. -/
def parseNamed (name : Token) : Parse (Option Stmt) := do
  let next ← look tokens
  if next.kind = .assign then do
    let _ ← advance tokens
    let value ← parseExpression dialect tokens 0
    terminate tokens name.span.start (fun span value => .assign span (Name.ofToken name) value)
      value
  else if next.kind = .leftParen then do
    let _ ← advance tokens
    let call ← parseCall dialect tokens (Name.ofToken name)
    terminate tokens name.span.start (fun span call => .call span call) call
  else do
    report ((Problem.expectedAssignOrCall name.lexeme next).diagnostic next.span)
    abandon tokens

/-- Read a statement. -/
def parseStatement : Parse (Option Stmt) := do
  let first ← look tokens
  if first.kind = .printWord ∧ dialect.print = .keyword then do
    let word ← advance tokens
    let value ← parseExpression dialect tokens 0
    terminate tokens word.span.start (fun span value => .print span value) value
  else if dialect.isName first then do
    let name ← advance tokens
    parseNamed dialect tokens name
  else do
    report ((Problem.expectedStatement first).diagnostic first.span)
    abandon tokens

/-- Read statements up to the end of the input. -/
def Tokens.parseStatements (dialect : Dialect) (tokens : Tokens) : Parse (List Stmt) := do
  let first ← look tokens
  if first.kind = .endOfInput then return []
  else do
    let stmt ← parseStatement dialect tokens
    let others ← tokens |>.parseStatements dialect
    return stmt.toList ++ others
partial_fixpoint

/-- Report that there is no statement, if the first token ends the input. -/
def reportEmpty (first : Token) : Parse Unit :=
  if first.kind = .endOfInput then report (Problem.emptyProgram.diagnostic first.span) else pure ()

/-- Read a program. -/
def parseProgram : Parse Program := do
  let first ← look tokens
  reportEmpty first
  let body ← parseStatements dialect tokens
  let last ← look tokens
  return ⟨⟨first.span.start, last.span.stop⟩, body⟩

/-- The program that tokens spell, and what is wrong with it. -/
def program? : Option (Program × List Diagnostic) :=
  (parseProgram dialect tokens ⟨0, []⟩).map fun (program, cursor) => (program, cursor.problems)

end Reading

variable {dialect : Dialect} {tokens front rest : List Token} {problems : List Diagnostic}
  {used : List Token} {ahead : Token}

/-! ### Statements and programs -/

/-- Recovery with the cursor goes over the tokens that are dropped.

Proof: induction on the tokens left. The cursor stays before the end of the input, passes a
semicolon and stops there, and passes any other token to go on. -/
theorem synchronize_eq {dropped : List Token} (split : tokens = front ++ rest)
    (drops : rest = dropped ++ recover rest) :
    synchronize tokens (behind front problems) = some ((), behind (front ++ dropped) problems) := by
  induction rest generalizing front dropped with
  | nil =>
    obtain rfl : dropped = [] := (List.append_eq_nil_iff.mp drops.symm).1
    have ended : (Token.next []).kind = .endOfInput := rfl
    rw [synchronize, run_bind (look_eq split), if_pos ended, List.append_nil]
    rfl
  | cons first others shorter =>
    rw [recover] at drops
    rw [synchronize, run_bind (look_eq split), Token.next_cons]
    by_cases ends : first.kind = .endOfInput
    · rw [if_pos ends] at drops ⊢
      obtain rfl : dropped = [] := List.self_eq_append_left.mp drops
      rw [List.append_nil]
      rfl
    rw [if_neg ends] at drops ⊢
    rw [run_bind (advance_eq split)]
    by_cases semicolon : first.kind = .semicolon
    · rw [if_pos semicolon] at drops ⊢
      obtain rfl : [first] = dropped := List.append_cancel_right drops
      rfl
    rw [if_neg semicolon] at drops ⊢
    cases dropped with
    | nil =>
      have length := congrArg List.length drops
      have noMore := length_recover_le others
      rw [List.nil_append, List.length_cons] at length
      omega
    | cons token dropped =>
      obtain ⟨rfl, left⟩ := List.cons.inj drops
      refine (shorter (split_cons split) left).trans ?_
      rw [List.append_assoc, List.singleton_append]

/-- A statement is read or left behind. -/
def Settles (tokens : List Token) (parse : Parse (Option Stmt)) (used : List Token) (ahead : Token)
    (result : Except Diagnostic Stmt) : Prop :=
  ∀ front rest dropped problems, tokens = front ++ (used ++ rest) → Token.next rest = ahead →
    rest = dropped ++ leftBehind result rest →
    parse (behind front problems) =
      some (result.toOption, behind (front ++ (used ++ dropped)) (noted problems result))

/-- A statement that is refused behind the tokens used is left behind from there. -/
theorem abandon_eq {dropped : List Token} (split : tokens = front ++ (used ++ rest))
    (drops : rest = dropped ++ recover rest) :
    abandon tokens (behind (front ++ used) problems) =
      some (none, behind (front ++ (used ++ dropped)) problems) := by
  rw [← List.append_assoc] at split
  rw [abandon, run_bind (synchronize_eq split drops), List.append_assoc]
  rfl

/-- A phrase and its semicolon are read along any walk over them. A refused phrase and a missing
semicolon are abandoned behind the diagnostic, and recovery goes over what the walk drops. A
semicolon that is found ends the statement. -/
theorem settles_terminated {phrase : Phrase} {start : Position}
    {build : Span → phrase.Tree → Stmt} {parse : Parse (Option phrase.Tree)}
    {result : Except Diagnostic Stmt}
    (follows : ∀ {used ahead result}, Walk dialect phrase used ahead result →
      Reads tokens parse used ahead result)
    (walked : Terminated dialect phrase start build used ahead result) :
    Settles tokens (do
      let value ← parse
      terminate tokens start build value) used ahead result := by
  intro front rest dropped problems split next drops
  cases walked with
  | refused walk =>
    rw [run_bind (follows walk front rest problems split next)]
    exact abandon_eq split drops
  | unended walk goesOn =>
    subst next
    have regrouped : tokens = front ++ used ++ rest := by
      rw [split, List.append_assoc]
    rw [run_bind (follows walk front rest problems split rfl)]
    refine (run_bind (expect_refused regrouped goesOn)).trans ?_
    exact abandon_eq split drops
  | @ended used ending _ tree walk ends =>
    obtain rfl : dropped = [] := List.self_eq_append_left.mp drops
    have regrouped : tokens = front ++ used ++ ending :: rest := by
      rw [split]
      simp only [List.append_assoc, List.singleton_append]
    have closed := @expect_found tokens (front ++ used) rest problems ending regrouped
    rw [ends] at closed
    have read := follows walk front (ending :: rest) problems
      (by rw [regrouped, List.append_assoc]) rfl
    rw [run_bind read]
    refine (run_bind closed).trans ((run_bind (deref_some tree _)).trans ?_)
    rw [run_bind (previousStop_eq rest (split_cons regrouped)), List.append_nil, List.append_assoc]
    rfl

/-- The cursor reads an expression and the semicolon behind it as the walk over the two does. -/
theorem settles_expression {start : Position} {build : Span → Expr → Stmt}
    {result : Except Diagnostic Stmt}
    (walked : Terminated dialect (.level .expression) start build used ahead result) :
    Settles tokens (do
      let value ← parseExpression dialect tokens 0
      terminate tokens start build value) used ahead result :=
  @settles_terminated dialect tokens used ahead (.level .expression) start build
    (parseExpression dialect tokens 0) result (fun walk => follows_of_walk walk tokens) walked

/-- It reads the rest of a call and the semicolon behind it as the walk over these does, too. -/
theorem settles_call {start : Position} {callee : Name} {build : Span → Call → Stmt}
    {result : Except Diagnostic Stmt}
    (walked : Terminated dialect (.call callee) start build used ahead result) :
    Settles tokens (do
      let call ← parseCall dialect tokens callee
      terminate tokens start build call) used ahead result :=
  @settles_terminated dialect tokens used ahead (.call callee) start build
    (parseCall dialect tokens callee) result (fun walk => follows_of_walk walk tokens) walked

/-- What is settled behind a token is settled from that token on. -/
theorem Settles.cons {parse whole : Parse (Option Stmt)} {result : Except Diagnostic Stmt}
    (settles : Settles tokens parse used ahead result)
    (goes : ∀ front rest problems, tokens = front ++ first :: (used ++ rest) →
      whole (behind front problems) = parse (behind (front ++ [first]) problems)) :
    Settles tokens whole (first :: used) ahead result := by
  intro front rest dropped problems split next drops
  rw [List.cons_append] at split
  rw [goes front rest problems split,
    settles (front ++ [first]) rest dropped problems (split_cons split) next drops,
    List.append_assoc, List.singleton_append, List.cons_append]

/-- A name does not start a statement that prints. Where the reserved word prints, it is no name. -/
theorem not_print_of_isName {token : Token} (named : IsName dialect token) :
    ¬ (token.kind = .printWord ∧ dialect.print = .keyword) := by
  rintro ⟨word, keyword⟩
  rcases named with plain | ⟨_, procedure⟩
  · simp [plain] at word
  · simp [keyword] at procedure

/-- A statement that starts with a name is left to the parser of these, with the name passed. -/
theorem parseStatement_named {name : Token} (named : IsName dialect name)
    (split : tokens = front ++ name :: rest) :
    parseStatement dialect tokens (behind front problems) =
      parseNamed dialect tokens name (behind (front ++ [name]) problems) := by
  rw [parseStatement, run_bind (look_eq split), Token.next_cons, if_neg (not_print_of_isName named),
    if_pos ((isName_iff dialect name).mpr named), run_bind (advance_eq split)]

/-- A statement is read along any walk over it. The first tokens decide on the branch of the
parser, as they decide on the rule of the walk. -/
theorem settles_of_walk {result : Except Diagnostic Stmt}
    (walk : StatementWalk dialect used ahead result) (tokens : List Token) :
    Settles tokens (parseStatement dialect tokens) used ahead result := by
  cases walk with
  | print prints keyword behind =>
    refine (settles_expression behind).cons fun front rest problems split => ?_
    rw [parseStatement, run_bind (look_eq split), Token.next_cons, if_pos ⟨prints, keyword⟩,
      run_bind (advance_eq split)]
  | @assign name sign _ used _ named assigns behind =>
    have settled : Settles tokens (parseNamed dialect tokens name) (sign :: used) ahead result := by
      refine (settles_expression behind).cons fun front rest problems split => ?_
      rw [parseNamed, run_bind (look_eq split), Token.next_cons, if_pos assigns,
        run_bind (advance_eq split)]
    exact settled.cons fun front rest problems split => parseStatement_named named split
  | @call name opening _ used _ named opens behind =>
    have settled : Settles tokens (parseNamed dialect tokens name) (opening :: used) ahead
        result := by
      refine (settles_call behind).cons fun front rest problems split => ?_
      rw [parseNamed, run_bind (look_eq split), Token.next_cons, if_neg (by rw [opens]; decide),
        if_pos opens, run_bind (advance_eq split)]
    exact settled.cons fun front rest problems split => parseStatement_named named split
  | @neither name ahead named noAssign noCall =>
    intro front rest dropped problems split next drops
    subst next
    rw [List.singleton_append] at split
    have noted' := @abandon_eq tokens front rest (problems ++ [(Problem.expectedAssignOrCall
      name.lexeme (Token.next rest)).diagnostic (Token.next rest).span]) [name] dropped split drops
    rw [parseStatement_named named split, parseNamed, run_bind (look_eq (split_cons split)),
      if_neg noAssign, if_neg noCall]
    exact noted'
  | noStatement noName noPrint =>
    intro front rest dropped problems split next drops
    subst next
    have noted' := @abandon_eq tokens front rest (problems ++ [(Problem.expectedStatement
      (Token.next rest)).diagnostic (Token.next rest).span]) [] dropped split drops
    rw [List.append_nil] at noted'
    rw [parseStatement, run_bind (look_eq split), List.nil_append, if_neg noPrint,
      if_neg fun named => noName ((isName_iff dialect _).mp named)]
    exact noted'

/-- What a refused statement leaves behind stands behind tokens that do not end the
input. -/
theorem exists_leftBehind (result : Except Diagnostic Stmt) (rest : List Token) :
    ∃ dropped, rest = dropped ++ leftBehind result rest ∧
      ∀ token ∈ dropped, token.kind ≠ .endOfInput := by
  cases result with
  | ok stmt => exact ⟨[], rfl, List.forall_mem_nil _⟩
  | error problem =>
    obtain ⟨dropped, split, closed | ⟨inside, _⟩⟩ := exists_dropped rest
    · exact ⟨dropped, split, closed.going⟩
    · exact ⟨dropped, split, fun token member => (inside token member).2⟩

/-- Statements are read up to the token that ends the input.

Proof: induction on the statements. Each is read or left behind along a walk over it,
and the tokens that it takes do not end the input. -/
theorem exists_statements (dialect : Dialect) (tokens rest : List Token) :
    ∃ consumed left, rest = consumed ++ left ∧ Token.ending rest = Token.next left ∧
      (∀ token ∈ consumed, token.kind ≠ .endOfInput) ∧
      ∀ front problems, tokens = front ++ rest →
        parseStatements dialect tokens (behind front problems) =
          some (trees (statements dialect rest), behind (front ++ consumed)
            (problems ++ diagnostics (statements dialect rest))) := by
  induction rest using statements_induction dialect with
  | ended rest ends =>
    refine ⟨[], rest, rfl, Token.ending_of_ends ends, List.forall_mem_nil _, ?_⟩
    intro front problems split
    rw [parseStatements, run_bind (look_eq split), if_pos ends, statements_end dialect ends,
      List.append_nil]
    exact congrArg (fun noted => some ([], behind front noted)) (List.append_nil problems).symm
  | statement used rest result walk going others =>
    obtain ⟨consumed, left, split, ending, insideOthers, reads⟩ := others
    obtain ⟨dropped, drops, inside⟩ := exists_leftBehind result rest
    have taken : used ++ rest = (used ++ dropped) ++ leftBehind result rest := by
      rw [List.append_assoc, ← drops]
    have goes : ∀ token ∈ used ++ dropped, token.kind ≠ .endOfInput :=
      List.forall_mem_append.mpr ⟨walk.confined.going, inside⟩
    refine ⟨used ++ dropped ++ consumed, left, ?_, ?_,
      List.forall_mem_append.mpr ⟨goes, insideOthers⟩, fun front problems regrouped => ?_⟩
    · rw [taken, split]
      exact (List.append_assoc _ _ _).symm
    · rw [taken, Token.ending_append goes, ending]
    · have read := settles_of_walk walk tokens front rest dropped problems regrouped rfl drops
      have further : tokens = front ++ (used ++ dropped) ++ leftBehind result rest := by
        rw [regrouped, taken]
        exact (List.append_assoc _ _ _).symm
      rw [parseStatements, run_bind (look_eq regrouped), if_neg going, run_bind read,
        run_bind (reads _ (noted problems result) further), walk.statements_eq rfl going,
        List.append_assoc front]
      cases result with
      | ok stmt => rfl
      | error problem =>
        refine congrArg (fun noted => some (_, behind _ noted)) ?_
        exact List.append_assoc _ _ _

/-- A program is read up to the token that ends the input, and what is read is the program
that the tokens spell. -/
theorem exists_program (dialect : Dialect) (tokens : List Token) :
    ∃ consumed left, tokens = consumed ++ left ∧ Token.ending tokens = Token.next left ∧
      (∀ token ∈ consumed, token.kind ≠ .endOfInput) ∧
      parseProgram dialect tokens ⟨0, []⟩ =
        some ((Program.ofTokens dialect tokens).1,
          behind consumed (Program.ofTokens dialect tokens).2) := by
  obtain ⟨consumed, left, split, ending, inside, reads⟩ := exists_statements dialect tokens tokens
  refine ⟨consumed, left, split, ending, inside, ?_⟩
  have seen := @look_eq tokens [] tokens [] rfl
  have read (problems : List Diagnostic) :
      parseStatements dialect tokens (behind [] problems) =
        some (trees (statements dialect tokens),
          behind consumed (problems ++ diagnostics (statements dialect tokens))) :=
    reads [] problems rfl
  rw [parseProgram, Program.ofTokens, ending]
  change (look tokens >>= _) (behind [] []) = _
  rw [run_bind seen]
  by_cases empty : (Token.next tokens).kind = .endOfInput
  · have reported : reportEmpty (Token.next tokens) (behind [] []) =
        some ((), behind [] [Problem.emptyProgram.diagnostic (Token.next tokens).span]) :=
      congrFun (if_pos empty) _
    rw [run_bind reported, run_bind (read _), run_bind (look_eq split), if_pos empty,
      statements_end dialect empty]
    rfl
  · have reported : reportEmpty (Token.next tokens) (behind [] []) = some ((), behind [] []) :=
      congrFun (if_neg empty) _
    rw [run_bind reported, run_bind (read _), run_bind (look_eq split), if_neg empty]
    rfl

/-- Every list of tokens can be read with a cursor, and what is read is the program that
they spell. -/
theorem program?_eq (dialect : Dialect) (tokens : List Token) :
    program? dialect tokens = some (Program.ofTokens dialect tokens) := by
  obtain ⟨consumed, left, -, -, -, read⟩ := exists_program dialect tokens
  rw [program?, read]
  rfl

end Astro.Checked
