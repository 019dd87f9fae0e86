import Astro.Proofs.CursorStatements

/-!
# Progress of the cursor

Every function that reads with a cursor gets on, whatever the tokens are. A phrase that is
read uses up at least one token and adds no diagnostic, and one that is refused adds exactly
one; neither goes over a semicolon or over what ends the input. Every statement moves the
cursor on, so that statements come to an end, and they do so just where the input ends.

What is said of a call is said of the cursor before it and the cursor behind it. The index
never goes back, so it has not been anywhere beyond in between.
-/

namespace Astro.Checked

open Reading Grammar Tokens

variable {α : Type} {dialect : Dialect} {tokens : List Token}

/-! ### Where a cursor stands -/

/-- The index of the first token that ends the input; the number of tokens if none does. -/
def limit (tokens : List Token) : Nat := tokens.findIdx fun token => token.kind = .endOfInput

/-- A cursor stands before one of the tokens, or behind all of them. -/
structure Cursor.On (tokens : List Token) (cursor : Cursor) : Prop where
  nonneg : 0 ≤ cursor.index
  bounded : cursor.index ≤ tokens.length

/-- The tokens between two cursors. They are the ones that were read from the one to the other. -/
def Cursor.passed (tokens : List Token) (before after : Cursor) : List Token :=
  (tokens.take after.index.toNat).drop before.index.toNat

/-- What a call comes to that reads a phrase: the cursor is moved on over tokens inside a
statement, and there is either a tree of at least one token or one diagnostic more. -/
structure Progress (tokens : List Token) (before : Cursor) (found : Option α) (after : Cursor) :
    Prop where
  stays : after.On tokens
  inside : ∀ token ∈ Cursor.passed tokens before after, token.Inside
  confined : before.index ≤ limit tokens → after.index ≤ limit tokens
  read : found.isSome = true → before.index < after.index ∧ after.problems = before.problems
  refused : found = none → before.index ≤ after.index ∧
    ∃ problem, after.problems = before.problems ++ [problem]

/-- A call gives a result and makes progress. That it gives one is part of the statement, as a
reader that runs on for ever has none. -/
def Progresses (tokens : List Token) (parse : Parse (Option α)) (cursor : Cursor) : Prop :=
  ∃ found after, parse cursor = some (found, after) ∧ Progress tokens cursor found after

/-- A cursor on tokens parts them into those before it and those behind it. -/
theorem Cursor.On.exists_behind {cursor : Cursor} (on : cursor.On tokens) :
    ∃ front rest, tokens = front ++ rest ∧ cursor = behind front cursor.problems := by
  obtain ⟨index, problems⟩ := cursor
  obtain ⟨count, rfl⟩ := Int.eq_ofNat_of_zero_le on.nonneg
  have bounded : count ≤ tokens.length := Int.ofNat_le.mp on.bounded
  refine ⟨tokens.take count, tokens.drop count, (List.take_append_drop count tokens).symm, ?_⟩
  simp only [behind, List.length_take, Nat.min_eq_left bounded]

/-- Behind some of the tokens, the cursor is on them. -/
theorem on_behind {front rest : List Token} (problems : List Diagnostic)
    (split : tokens = front ++ rest) : (behind front problems).On tokens := by
  constructor
  · exact Int.natCast_nonneg _
  · rw [split, List.length_append]
    exact Int.ofNat_le.mpr (Nat.le_add_right _ _)

/-- Between the cursors before and behind some tokens stand these tokens. -/
theorem passed_behind {front used rest : List Token} {problems others : List Diagnostic}
    (split : tokens = front ++ (used ++ rest)) :
    Cursor.passed tokens (behind front problems) (behind (front ++ used) others) = used := by
  simp only [Cursor.passed, behind, Int.toNat_natCast]
  rw [split, ← List.append_assoc, List.take_left, List.drop_left]

/-- Behind tokens that do not end the input the limit lies further on, by their number. -/
theorem limit_append {front : List Token} (going : ∀ token ∈ front, token.kind ≠ .endOfInput)
    (rest : List Token) : limit (front ++ rest) = front.length + limit rest := by
  have none : front.findIdx (fun token => token.kind = .endOfInput) = front.length := by
    rw [List.findIdx_eq_length]
    intro token member
    exact decide_eq_false (going token member)
  rw [limit, List.findIdx_append, none, if_neg (Nat.lt_irrefl _), Nat.add_comm]
  rfl

/-- Tokens stand before the limit as long as none of them ends the input. -/
theorem le_limit_iff {front rest : List Token} :
    front.length ≤ limit (front ++ rest) ↔ ∀ token ∈ front, token.kind ≠ .endOfInput := by
  constructor
  · intro within token member ends
    obtain ⟨position, inside, rfl⟩ := List.getElem_of_mem member
    have before : position < limit (front ++ rest) := by omega
    have going := List.not_of_lt_findIdx before
    rw [List.getElem_append_left inside] at going
    exact of_decide_eq_false going ends
  · intro going
    rw [limit_append going]
    exact Nat.le_add_right _ _

/-- What ends the input stands at the limit, and so does the end of a list that no token ends. -/
theorem limit_of_ends {rest : List Token} (ends : (Token.next rest).kind = .endOfInput) :
    limit rest = 0 := by
  cases rest with
  | nil => rfl
  | cons first others =>
    rw [Token.next_cons] at ends
    rw [limit, List.findIdx_cons, decide_eq_true ends]
    rfl

/-- Going over tokens that do not end the input does not lead past the limit. -/
theorem confined_behind {front used rest : List Token} {problems others : List Diagnostic}
    (split : tokens = front ++ (used ++ rest)) (going : ∀ token ∈ used, token.kind ≠ .endOfInput)
    (within : (behind front problems).index ≤ limit tokens) :
    (behind (front ++ used) others).index ≤ limit tokens := by
  subst split
  have before := le_limit_iff.mp (Int.ofNat_le.mp within)
  rw [← List.append_assoc]
  exact Int.ofNat_le.mpr (le_limit_iff.mpr (List.forall_mem_append.mpr ⟨before, going⟩))

/-! ### Phrases -/

/-- Some tokens inside a statement are read or refused at the front of a list. At least one
is used where they are read. -/
def Advances (tokens : List Token) (parse : Parse (Option α)) (rest : List Token) : Prop :=
  ∃ used left result, rest = used ++ left ∧ (∀ token ∈ used, token.Inside) ∧
    (∀ value, result = .ok value → used ≠ []) ∧ Reads tokens parse used (Token.next left) result

/-- What advances from the tokens behind a cursor makes progress with that cursor. It passes the
tokens used, which end neither the statement nor the input. There is at least one if something was
read, and one diagnostic more if not. -/
theorem Advances.progresses {parse : Parse (Option α)} {front rest : List Token}
    (advances : Advances tokens parse rest) (split : tokens = front ++ rest)
    (problems : List Diagnostic) : Progresses tokens parse (behind front problems) := by
  obtain ⟨used, left, result, rfl, inside, some, reads⟩ := advances
  have regrouped : tokens = front ++ used ++ left := by
    rw [split, List.append_assoc]
  refine ⟨_, _, reads front left problems split rfl, ?_⟩
  constructor
  · exact on_behind _ regrouped
  · rw [passed_behind split]
    exact inside
  · exact confined_behind split fun token member => (inside token member).2
  · intro found
    cases result with
    | error problem => cases found
    | ok value =>
      have longer := List.length_pos_iff.mpr (some value rfl)
      simp only [behind, noted, List.length_append, and_true]
      omega
  · intro missing
    cases result with
    | ok value => cases missing
    | error problem =>
      refine ⟨?_, problem, rfl⟩
      simp only [behind, List.length_append]
      omega

/-- A phrase that is read along walks advances, unless it may be empty. -/
theorem advances_of_walks {phrase : Phrase} {parse : Parse (Option phrase.Tree)}
    (fewer : ∀ tokens, ∃ reading : Reading phrase.Tree tokens.length,
      phrase.outcome dialect .nowhere tokens = reading.outcome)
    (follows : ∀ {used ahead result}, Walk dialect phrase used ahead result →
      Reads tokens parse used ahead result)
    (rest : List Token) : Advances tokens parse rest := by
  obtain ⟨used, left, result, split, walk⟩ := @Phrase.walked dialect phrase rest
  refine ⟨used, left, result, split, walk.inside, ?_, follows walk⟩
  rintro value rfl
  exact used_of_fewer walk fewer

/-- A factor advances, from whatever tokens it is read. It passes a token, or it reports one
without passing it. -/
theorem advances_factor (dialect : Dialect) (tokens rest : List Token) :
    Advances tokens (parseFactor dialect tokens) rest :=
  @advances_of_walks dialect tokens (.level .factor) (parseFactor dialect tokens)
    (fun tokens => ⟨factor dialect tokens, rfl⟩) (fun walk => follows_of_walk walk tokens) rest

/-- A primary advances, from whatever tokens it is read. It passes a token, or it reports one
without passing it. -/
theorem advances_primary (dialect : Dialect) (tokens rest : List Token) :
    Advances tokens (parsePrimary dialect tokens) rest :=
  @advances_of_walks dialect tokens .primary (parsePrimary dialect tokens)
    (fun tokens => ⟨primary dialect tokens, rfl⟩) (fun walk => follows_of_walk walk tokens) rest

/-- A call advances behind its opening parenthesis, from whatever tokens are there. -/
theorem advances_call (dialect : Dialect) (tokens : List Token) (callee : Name)
    (rest : List Token) : Advances tokens (parseCall dialect tokens callee) rest :=
  @advances_of_walks dialect tokens (.call callee) (parseCall dialect tokens callee)
    (fun tokens => ⟨Reading.call dialect callee tokens, rfl⟩)
    (fun walk => follows_of_walk walk tokens) rest

/-- What binds joins the operands of a chain, and there are just the two chains. -/
theorem joins_of_bindingPower {op : Token} (binds : 0 < bindingPower dialect op.kind) :
    ∃ chain : Chain, chain.Joins dialect op := by
  by_contra none
  rw [bindingPower_none (fun joins => none ⟨.product, joins⟩) fun joins => none ⟨.sum, joins⟩]
    at binds
  exact absurd binds (Nat.lt_irrefl 0)

/-- Operators of any binding power are read or refused behind an operand.

Proof: strong induction on the number of tokens. An operator that binds strongly enough
joins the operands of a chain, and its operand is walked over; the loop goes on from
there. -/
theorem exists_operators (dialect : Dialect) (tokens : List Token) (least : Nat) (tree : Expr)
    (rest : List Token) :
    ∃ used left result, rest = used ++ left ∧ (∀ token ∈ used, token.Inside) ∧
      Reads tokens (parseOperators dialect tokens least (some tree)) used (Token.next left)
        result := by
  induction size : rest.length using Nat.strongRecOn generalizing rest tree with
  | ind count shorter =>
    by_cases weak : bindingPower dialect (Token.next rest).kind ≤ least
    · refine ⟨[], rest, .ok tree, rfl, List.forall_mem_nil _, ?_⟩
      intro front left problems split next
      rw [← next] at weak
      rw [List.append_nil]
      exact parseOperators_stops (some tree) left split weak
    have strong : least < bindingPower dialect (Token.next rest).kind := Nat.not_le.mp weak
    cases rest with
    | nil => exact absurd (Nat.zero_le least) weak
    | cons op others =>
      obtain ⟨chain, joins⟩ := joins_of_bindingPower (Nat.zero_lt_of_lt strong)
      obtain ⟨used, left, result, rfl, walk⟩ :=
        @Phrase.walked dialect (.level chain.operand) others
      have link := (follows_of_walk walk tokens).link joins strong tree
      have inside : ∀ token ∈ op :: used, token.Inside :=
        List.forall_mem_cons.mpr ⟨inside_of_joins joins, walk.inside⟩
      cases result with
      | error problem => exact ⟨op :: used, left, .error problem, rfl, inside, link⟩
      | ok right =>
        obtain ⟨more, behind, result, rfl, insideMore, reads⟩ :=
          shorter left.length (by simp only [← size, List.length_cons, List.length_append]; omega)
            (Expr.join op.kind tree right) left rfl
        rw [Token.next_append] at link
        refine ⟨op :: used ++ more, behind, result, ?_,
          List.forall_mem_append.mpr ⟨inside, insideMore⟩, link.reads reads⟩
        simp only [List.cons_append, List.append_assoc]

/-- An expression advances whatever the binding power of its operators: it starts with a factor.
The operators behind the factor bind as strongly as asked for or end the expression, and a chain
of them may be empty. -/
theorem advances_expression (dialect : Dialect) (tokens : List Token) (least : Nat)
    (rest : List Token) : Advances tokens (parseExpression dialect tokens least) rest := by
  obtain ⟨used, left, result, rfl, inside, some, reads⟩ := advances_factor dialect tokens rest
  have leads := reads.leads least
  cases result with
  | error problem => exact ⟨used, left, .error problem, rfl, inside, nofun, leads⟩
  | ok tree =>
    obtain ⟨more, behind, result, rfl, insideMore, readsMore⟩ :=
      exists_operators dialect tokens least tree left
    rw [Token.next_append] at leads
    refine ⟨used ++ more, behind, result, (List.append_assoc _ _ _).symm,
      List.forall_mem_append.mpr ⟨inside, insideMore⟩, ?_, leads.reads readsMore⟩
    intro value _ none
    exact some tree rfl (List.append_eq_nil_iff.mp none).1

/-- Read a call from its opening parenthesis on. This is what is read behind the name of its
callee. -/
def parseOpenedCall (dialect : Dialect) (tokens : List Token) (callee : Name) :
    Parse (Option Call) := do
  let _ ← advance tokens
  parseCall dialect tokens callee

/-- Behind an opening parenthesis a call advances, and so it does from there, the parenthesis
being one more token. -/
theorem advances_openedCall (dialect : Dialect) {opening : Token}
    (opens : opening.kind = .leftParen) (tokens : List Token) (callee : Name)
    (rest : List Token) :
    Advances tokens (parseOpenedCall dialect tokens callee) (opening :: rest) := by
  obtain ⟨used, left, result, rfl, inside, -, reads⟩ := advances_call dialect tokens callee rest
  refine ⟨opening :: used, left, result, rfl, ?_, fun _ _ => List.cons_ne_nil _ _, ?_⟩
  · exact List.forall_mem_cons.mpr ⟨by simp [Token.Inside, opens], inside⟩
  · intro front rest problems split next
    rw [List.cons_append] at split
    have read := reads (front ++ [opening]) rest problems (split_cons split) next
    rw [parseOpenedCall, run_bind (advance_eq split), read, List.append_assoc,
      List.singleton_append]

/-! ### Statements and programs -/

/-- A statement moves the cursor on, but not past the limit. -/
structure Moves (tokens : List Token) (before after : Cursor) : Prop where
  stays : after.On tokens
  further : before.index < after.index
  confined : before.index ≤ limit tokens → after.index ≤ limit tokens

/-- A statement moves the cursor on from any token that does not end the input, whether it
is read or left behind. -/
theorem moves_statement (dialect : Dialect) {front rest : List Token}
    (split : tokens = front ++ rest) (going : (Token.next rest).kind ≠ .endOfInput)
    (problems : List Diagnostic) :
    ∃ stmt after, parseStatement dialect tokens (behind front problems) = some (stmt, after) ∧
      Moves tokens (behind front problems) after := by
  obtain ⟨used, left, result, rfl, walk⟩ := exists_statementWalk dialect rest
  obtain ⟨dropped, drops, inside⟩ := exists_leftBehind result left
  have taken : used ++ left = used ++ dropped ++ leftBehind result left := by
    rw [List.append_assoc, ← drops]
  have goes : ∀ token ∈ used ++ dropped, token.kind ≠ .endOfInput :=
    List.forall_mem_append.mpr ⟨walk.confined.going, inside⟩
  have read := settles_of_walk walk tokens front left dropped problems split rfl drops
  refine ⟨_, _, read, ?_⟩
  rw [taken] at split
  constructor
  · exact on_behind _ (split.trans (List.append_assoc _ _ _).symm)
  · have fewer := walk.fewer going
    rw [taken, List.length_append] at fewer
    simp only [behind, List.length_append]
    simp only [List.length_append] at fewer
    omega
  · exact confined_behind split goes

/-- The token at which the statements end does end the input, also where it has to be made up. -/
theorem kind_ending (tokens : List Token) : (Token.ending tokens).kind = .endOfInput := by
  unfold Token.ending
  cases found : tokens.find? fun token => token.kind = .endOfInput with
  | none => rfl
  | some token =>
    have ends := List.find?_some found
    exact of_decide_eq_true ends

/-- A program is read up to the limit, and it is the one that the tokens spell, with the same
diagnostics. -/
theorem exists_program_at_limit (dialect : Dialect) (tokens : List Token) :
    ∃ program after, parseProgram dialect tokens ⟨0, []⟩ = some (program, after) ∧
      after.index = limit tokens ∧
      (program, after.problems) = Program.ofTokens dialect tokens := by
  obtain ⟨consumed, left, split, ending, going, read⟩ := exists_program dialect tokens
  refine ⟨_, _, read, ?_, rfl⟩
  have ends : (Token.next left).kind = .endOfInput := ending ▸ kind_ending tokens
  rw [split, limit_append going, limit_of_ends ends]
  rfl

/-- Every reading of tokens gets on, whatever their kinds, their spans and their number, and
wherever one of them ends the input.

With a cursor before any of the tokens, or behind all of them, the functions that read an
expression, a factor, a primary or a call come to an end. What they read takes at least
one token and adds no diagnostic. What they refuse adds exactly one, and neither goes over
a semicolon nor over what ends the input. A statement moves the cursor on, and a program
is read exactly up to the first token that ends the input, or up to the end of the tokens. -/
theorem reading_progresses (dialect : Dialect) (tokens : List Token) :
    (∀ cursor : Cursor, cursor.On tokens →
      (∀ least, Progresses tokens (parseExpression dialect tokens least) cursor) ∧
      Progresses tokens (parseFactor dialect tokens) cursor ∧
      Progresses tokens (parsePrimary dialect tokens) cursor ∧
      ∀ first, look tokens cursor = some (first, cursor) →
        (first.kind = .leftParen →
          ∀ callee, Progresses tokens (parseOpenedCall dialect tokens callee) cursor) ∧
        (first.kind ≠ .endOfInput →
          ∃ stmt after, parseStatement dialect tokens cursor = some (stmt, after) ∧
            Moves tokens cursor after)) ∧
    ∃ program after, parseProgram dialect tokens ⟨0, []⟩ = some (program, after) ∧
      after.index = limit tokens ∧
      (program, after.problems) = Program.ofTokens dialect tokens := by
  refine ⟨fun cursor on => ?_, exists_program_at_limit dialect tokens⟩
  obtain ⟨front, rest, split, at'⟩ := on.exists_behind
  rw [at']
  refine ⟨fun least => ?expression, ?factor, ?primary, fun first ahead => ⟨?call, ?statement⟩⟩
  case expression => exact (advances_expression dialect tokens least rest).progresses split _
  case factor => exact (advances_factor dialect tokens rest).progresses split _
  case primary => exact (advances_primary dialect tokens rest).progresses split _
  all_goals
    rw [look_eq split] at ahead
    obtain rfl : Token.next rest = first := congrArg Prod.fst (Option.some.inj ahead)
  case call =>
    intro opens callee
    obtain ⟨opening, others, rfl, opens⟩ := exists_cons_of_next opens (by decide)
    exact (advances_openedCall dialect opens tokens callee others).progresses split _
  case statement => exact fun going => moves_statement dialect split going _

/-- Words in no order, with a kind that means nothing and the end of the input between
them. -/
def scattered : List Token :=
  [⟨.other 99 (by decide), [], .nowhere⟩, ⟨.name, Text.ofString "a", .nowhere⟩,
    ⟨.semicolon, Text.ofString ";", .nowhere⟩, ⟨.name, Text.ofString "f", .nowhere⟩,
    ⟨.leftParen, Text.ofString "(", .nowhere⟩, ⟨.illegal, [], .nowhere⟩,
    ⟨.endOfInput, [], .nowhere⟩, ⟨.name, Text.ofString "b", .nowhere⟩, ⟨.endOfInput, [], .nowhere⟩]

/-- Scattered words are left behind up to the semicolon, then from the name up to what ends
the input; the call between them is refused with one diagnostic. -/
theorem reading_progresses_scattered :
    (∃ stmt after, parseStatement .full scattered ⟨0, []⟩ = some (stmt, after) ∧
      Moves scattered ⟨0, []⟩ after) ∧
    Progresses scattered (parseOpenedCall .full scattered
      ⟨.nowhere, Text.ofString "f"⟩) ⟨4, []⟩ ∧
    ∃ program after, parseProgram .full scattered ⟨0, []⟩ = some (program, after) ∧
      after.index = 6 := by
  obtain ⟨calls, program, after, read, index, -⟩ := reading_progresses .full scattered
  refine ⟨?first, ?call, program, after, read, index.trans (by decide)⟩
  case first =>
    obtain ⟨-, -, -, others⟩ := calls ⟨0, []⟩ ⟨by decide, by decide⟩
    exact (others _ rfl).2 (by decide)
  case call =>
    obtain ⟨-, -, -, others⟩ := calls ⟨4, []⟩ ⟨by decide, by decide⟩
    exact (others _ rfl).1 (by decide) _

end Astro.Checked
