import Astro.Proofs.Accesses
import Astro.Proofs.Segments

/-!
# Reading expressions with a cursor

Tokens are read once more with an index into their list. What stands at the index is
looked up, a place may be asked for behind the token before it, and a tree that was not
read is a missing one, which must not be looked into. Operators are joined by binding
power in one loop for both levels: the loop goes on as long as the operator ahead binds
more strongly than the one to the left of the operand.

The accesses never fail and the loops end, whatever the tokens are. The proof is by
induction on walks: for every phrase, the function that reads it moves the index over the
tokens that the walk uses, and gives the result of the walk (`follows_of_walk`).
-/

namespace Astro.Checked

open Reading Grammar

variable {α β : Type}

/-! ### The cursor -/

/-- What reading changes: the index of the next token, and the diagnostics so far. -/
structure Cursor where
  index : Int
  problems : List Diagnostic

/-- Reading with a cursor. There is no result when an access fails, or a loop does not
end. -/
abbrev Parse (α : Type) := StateT Cursor Option α

/-- What a reference stands for; there must be something. -/
def deref (reference : Option α) : Parse α := fun cursor =>
  reference.map fun value => (value, cursor)

/-- Add a diagnostic. It is put behind those that were reported before. -/
def report (problem : Diagnostic) : Parse Unit := fun cursor =>
  some ((), { cursor with problems := cursor.problems ++ [problem] })

/-- Add a diagnostic, and read nothing. The cursor stays where it is. -/
def refuse (problem : Diagnostic) : Parse (Option α) := do
  report problem
  return none

/-- How strongly an operator binds; nothing else binds at all. -/
def bindingPower (dialect : Dialect) : Token.Kind → Nat
  | .plus => 10
  | .minus => 10
  | .star => 20
  | .slash => 20
  | .percent => if dialect.modulo then 20 else 0
  | _ => 0

section Reading

variable (tokens : List Token)

/-- The next token. Behind the last one, the end of the input is made up. -/
def look : Parse Token := fun cursor =>
  if tokens.length ≤ cursor.index then some (Token.missing, cursor)
  else (element? tokens cursor.index).map fun token => (token, cursor)

/-- Read the next token, if there is one left. -/
def advance : Parse Token := do
  let token ← look tokens
  fun cursor =>
    if cursor.index < tokens.length then some (token, { cursor with index := cursor.index + 1 })
    else some (token, cursor)

/-- Read a token of a given kind. Another one is reported and left to be read. -/
def expect (wanted : Token.Kind) : Parse (Option Token) := do
  let token ← look tokens
  if token.kind = wanted then do
    let token ← advance tokens
    return some token
  else refuse ((Problem.expected wanted token).diagnostic token.span)

/-- The place where the token before the cursor ends. -/
def previousStop : Parse Position := fun cursor =>
  if 0 < cursor.index ∧ cursor.index - 1 < tokens.length then
    (element? tokens (cursor.index - 1)).map fun token => (token.span.stop, cursor)
  else (look tokens cursor).map fun (token, cursor) => (token.span.start, cursor)

/-- Two operands joined by an operator. Both must be there. -/
def join (op : Token.Kind) (left right : Option Expr) : Parse (Option Expr) := do
  let left ← deref left
  let right ← deref right
  return some (Expr.join op left right)

/-- The place where arguments end that start at `start`. -/
def argumentsStop (start : Position) (args : List Expr) : Parse Position :=
  if 0 < args.length then previousStop tokens else return start

end Reading

/-! ### Expressions -/

/-- Tokens that are read. Readers that call each other are methods of it. -/
abbrev Tokens := List Token

mutual

/-- Read an expression of operators that bind more strongly than `least`. -/
def Tokens.parseExpression (dialect : Dialect) (tokens : Tokens) (least : Nat) :
    Parse (Option Expr) := do
  let left ← tokens |>.parseFactor dialect
  if left.isNone then return none
  else tokens |>.parseOperators dialect least left
partial_fixpoint

/-- Read the operators behind `left` that bind more strongly than `least`. -/
def Tokens.parseOperators (dialect : Dialect) (tokens : Tokens) (least : Nat)
    (left : Option Expr) : Parse (Option Expr) := do
  let op ← look tokens
  if bindingPower dialect op.kind ≤ least then return left
  else do
    let _ ← advance tokens
    let right ← tokens |>.parseExpression dialect (bindingPower dialect op.kind)
    if right.isNone then return none
    else do
      let joined ← join op.kind left right
      tokens |>.parseOperators dialect least joined
partial_fixpoint

/-- Read a factor. A sign may stand before it, and an exponent behind. -/
def Tokens.parseFactor (dialect : Dialect) (tokens : Tokens) : Parse (Option Expr) := do
  let first ← look tokens
  if first.kind = .minus then do
    let sign ← advance tokens
    if dialect.negation = false then refuse (Problem.negationDisabled.diagnostic sign.span)
    else do
      let operand ← tokens |>.parsePrimary dialect
      if operand.isNone then return none
      else do
        let operand ← deref operand
        return some (.unary ⟨sign.span.start, operand.span.stop⟩ .minus operand)
  else do
    let base ← tokens |>.parsePrimary dialect
    if base.isNone then return none
    else do
      let op ← look tokens
      if op.kind = .power then do
        let _ ← advance tokens
        let exponent ← tokens |>.parseFactor dialect
        if exponent.isNone then return none
        else join .power base exponent
      else return base
partial_fixpoint

/-- Read a primary. Its first token decides what it is. -/
def Tokens.parsePrimary (dialect : Dialect) (tokens : Tokens) : Parse (Option Expr) := do
  let first ← look tokens
  if first.kind = .number then do
    let _ ← advance tokens
    match Number.ofNumeral? first.lexeme with
    | none => refuse ((Problem.malformedNumeral first.lexeme).diagnostic first.span)
    | some value => return some (.numeral first.span first.lexeme value)
  else if dialect.isName first then do
    let _ ← advance tokens
    let next ← look tokens
    if next.kind = .leftParen then do
      let _ ← advance tokens
      let call ← tokens |>.parseCall dialect (Name.ofToken first)
      return call.map Call.toExpr
    else return some (.name (Name.ofToken first))
  else if first.kind = .leftParen then do
    let _ ← advance tokens
    let tree ← tokens |>.parseExpression dialect 0
    if tree.isNone then return none
    else do
      let closing ← expect tokens .rightParen
      if closing.isNone then return none
      else return tree
  else refuse ((Problem.expectedExpression first).diagnostic first.span)
partial_fixpoint

/-- Read a call behind its opening parenthesis. Its arguments are read first, and then the
parenthesis that closes them. -/
def Tokens.parseCall (dialect : Dialect) (tokens : Tokens) (callee : Name) :
    Parse (Option Call) := do
  let first ← look tokens
  let args ← tokens |>.parseArguments dialect
  if args.isNone then return none
  else do
    let args ← deref args
    let stop ← argumentsStop tokens first.span.start args
    let closing ← expect tokens .rightParen
    if closing.isNone then return none
    else do
      let closing ← deref closing
      return some ⟨⟨callee.span.start, closing.span.stop⟩, callee, args, ⟨first.span.start, stop⟩⟩
partial_fixpoint

/-- Read arguments, of which there may be none. -/
def Tokens.parseArguments (dialect : Dialect) (tokens : Tokens) : Parse (Option (List Expr)) := do
  let first ← look tokens
  if first.kind = .rightParen then return some []
  else tokens |>.parseArgumentList dialect
partial_fixpoint

/-- Read at least one argument, and more of them after commas. -/
def Tokens.parseArgumentList (dialect : Dialect) (tokens : Tokens) :
    Parse (Option (List Expr)) := do
  let first ← tokens |>.parseExpression dialect 0
  if first.isNone then return none
  else do
    let first ← deref first
    let separator ← look tokens
    if separator.kind = .comma then do
      let _ ← advance tokens
      let others ← tokens |>.parseArgumentList dialect
      return others.map (first :: ·)
    else return some [first]
partial_fixpoint

end

open Tokens

/-! ### What the cursor sees -/

/-- A step of reading that gives a result is followed by the next step, from the cursor that the
first one leaves. Every equation below takes a function of the cursor apart by this one. -/
theorem run_bind {first : Parse α} {next : α → Parse β} {cursor after : Cursor} {value : α}
    (run : first cursor = some (value, after)) : (first >>= next) cursor = next value after := by
  change Option.bind (first cursor) _ = _
  rw [run]
  rfl

/-- A reference that is there stands for its value, and looking it up leaves the cursor where it
is. -/
theorem deref_some (value : α) (cursor : Cursor) :
    deref (some value) cursor = some (value, cursor) := rfl

/-- Nothing is read when a part of it was not: the rest is not tried, and the cursor stays where
the refusal has left it. -/
theorem run_missing {first : Parse (Option α)} {next : Option α → Parse (Option β)}
    {cursor after : Cursor} (run : first cursor = some (none, after)) :
    (do
      let part ← first
      if part.isNone then return none else next part : Parse (Option β)) cursor =
        some (none, after) := by
  rw [run_bind run]
  rfl

/-- Reading goes on with the value of a part that was read, from the cursor behind that part. -/
theorem run_present {first : Parse (Option α)} {next : Option α → Parse (Option β)}
    {cursor after : Cursor} {value : α} (run : first cursor = some (some value, after)) :
    (do
      let part ← first
      if part.isNone then return none else next part : Parse (Option β)) cursor =
        next (some value) after := by
  rw [run_bind run]
  rfl

/-- The cursor behind some tokens. -/
def behind (front : List Token) (problems : List Diagnostic) : Cursor := ⟨front.length, problems⟩

variable {dialect : Dialect} {tokens front rest : List Token} {problems : List Diagnostic}
  {first : Token}

/-- The first of the tokens behind the cursor can as well be counted to those before it. -/
theorem split_cons (split : tokens = front ++ first :: rest) :
    tokens = front ++ [first] ++ rest := by
  rw [split, List.append_assoc, List.singleton_append]

/-- The token that the cursor sees is the first behind it, or the made-up end of input where there
is none. The cursor does not move. -/
theorem look_eq (split : tokens = front ++ rest) :
    look tokens (behind front problems) = some (Token.next rest, behind front problems) := by
  subst split
  unfold look
  cases rest with
  | nil =>
    rw [if_pos (by simp [behind])]
    rfl
  | cons first others =>
    have inside :
        ¬ (((front ++ first :: others).length : Int) ≤ (behind front problems).index) := by
      simp only [behind, List.length_append, List.length_cons]
      omega
    have found := element?_append front (first :: others) 0
    rw [if_neg inside]
    exact congrArg (Option.map _) found

/-- Going on reads the first token behind the cursor and moves over it. Diagnostics stay as they
are. -/
theorem advance_eq (split : tokens = front ++ first :: rest) :
    advance tokens (behind front problems) = some (first, behind (front ++ [first]) problems) := by
  have inside : (behind front problems).index < (tokens.length : Int) := by
    rw [split, List.length_append, List.length_cons]
    simp only [behind]
    omega
  have moved : (⟨(behind front problems).index + 1, problems⟩ : Cursor) =
      behind (front ++ [first]) problems := by
    simp [behind]
  rw [advance, run_bind (look_eq split), if_pos inside, Token.next_cons, ← moved]
  rfl

/-- A token of the kind that is expected is read like any other. -/
theorem expect_found (split : tokens = front ++ first :: rest) :
    expect tokens first.kind (behind front problems) =
      some (some first, behind (front ++ [first]) problems) := by
  rw [expect, run_bind (look_eq split), Token.next_cons, if_pos rfl, run_bind (advance_eq split)]
  rfl

/-- A token of another kind is not read. The cursor stays in front of it, and a diagnostic at its
place says what was expected. -/
theorem expect_refused {wanted : Token.Kind} (split : tokens = front ++ rest)
    (other : (Token.next rest).kind ≠ wanted) :
    expect tokens wanted (behind front problems) =
      some (none, behind front (problems ++
        [(Problem.expected wanted (Token.next rest)).diagnostic (Token.next rest).span])) := by
  rw [expect, run_bind (look_eq split), if_neg other]
  rfl

/-- The place asked for behind the token before the cursor is where that token ends. The access is
in range because there is such a token. -/
theorem previousStop_eq {last : Token} (rest : List Token)
    (split : tokens = front ++ [last] ++ rest) :
    previousStop tokens (behind (front ++ [last]) problems) =
      some (last.span.stop, behind (front ++ [last]) problems) := by
  have index : (behind (front ++ [last]) problems).index - 1 = (front.length + 0 : Nat) := by
    simp [behind]
  have inside : 0 < (behind (front ++ [last]) problems).index ∧
      (behind (front ++ [last]) problems).index - 1 < tokens.length := by
    rw [split]
    simp only [behind, List.length_append, List.length_singleton]
    omega
  rw [previousStop, if_pos inside, index, split, List.append_assoc, element?_append]
  rfl

/-- Behind some tokens that were used, the place before the cursor is where the last of them ends,
whatever place was known before them. -/
theorem previousStop_lastStop {used : List Token} (some : used ≠ [])
    (split : tokens = front ++ (used ++ rest)) (before : Position) :
    previousStop tokens (behind (front ++ used) problems) =
      .some (Token.lastStop before used, behind (front ++ used) problems) := by
  obtain ⟨earlier, last, rfl⟩ := (List.eq_nil_or_concat' used).resolve_left some
  have stop : Token.lastStop before (earlier ++ [last]) = last.span.stop := by
    rw [Token.lastStop_append]
    rfl
  rw [stop, ← List.append_assoc]
  refine previousStop_eq rest ?_
  rw [split]
  simp only [List.append_assoc]

/-! ### Binding power -/

/-- No operator binds more strongly than those between factors. So the loop stops at once when it
is asked for anything stronger. -/
theorem bindingPower_le (dialect : Dialect) (kind : Token.Kind) :
    bindingPower dialect kind ≤ 20 := by
  unfold bindingPower
  repeat' split
  all_goals decide

/-- An operator between factors binds most strongly, if the dialect has it. -/
theorem bindingPower_factors {op : Token} (joins : JoinsFactors dialect op) :
    bindingPower dialect op.kind = 20 := by
  rcases joins with kind | kind | ⟨kind, modulo⟩
  · rw [kind]; rfl
  · rw [kind]; rfl
  · rw [kind, bindingPower, if_pos modulo]

/-- An operator between terms binds less strongly than one between factors. -/
theorem bindingPower_terms {op : Token} (joins : JoinsTerms op) :
    bindingPower dialect op.kind = 10 := by
  rcases joins with kind | kind <;> rw [kind] <;> rfl

/-- What joins no factors binds no more strongly than what joins terms. A modulo sign that the
dialect lacks is among these. -/
theorem bindingPower_le_terms {op : Token} (ends : ¬ JoinsFactors dialect op) :
    bindingPower dialect op.kind ≤ 10 := by
  unfold bindingPower
  split
  · exact Nat.le_refl 10
  · exact Nat.le_refl 10
  · next kind => exact absurd (.inl kind) ends
  · next kind => exact absurd (.inr (.inl kind)) ends
  · next kind =>
    rw [if_neg fun modulo => ends (.inr (.inr ⟨kind, modulo⟩))]
    exact Nat.zero_le 10
  · exact Nat.zero_le 10

/-- What joins neither factors nor terms does not bind, so that the loop ends in front of it at
every level. -/
theorem bindingPower_none {op : Token} (noFactors : ¬ JoinsFactors dialect op)
    (noTerms : ¬ JoinsTerms op) : bindingPower dialect op.kind = 0 := by
  unfold bindingPower
  split
  · next kind => exact absurd (.inl kind) noTerms
  · next kind => exact absurd (.inr kind) noTerms
  · next kind => exact absurd (.inl kind) noFactors
  · next kind => exact absurd (.inr (.inl kind)) noFactors
  · next kind => exact if_neg fun modulo => noFactors (.inr (.inr ⟨kind, modulo⟩))
  · rfl

/-! ### Reading along walks -/

/-- The diagnostics after something was read or refused. -/
def noted (problems : List Diagnostic) : Except Diagnostic α → List Diagnostic
  | .ok _ => problems
  | .error problem => problems ++ [problem]

/-- Reading goes over the tokens used, with one token ahead, to a result. -/
def Reads (tokens : List Token) (parse : Parse (Option α)) (used : List Token) (ahead : Token)
    (result : Except Diagnostic α) : Prop :=
  ∀ front rest problems, tokens = front ++ (used ++ rest) → Token.next rest = ahead →
    parse (behind front problems) =
      some (result.toOption, behind (front ++ used) (noted problems result))

/-- Reading goes over the tokens used and then on with operators, unless it is refused. -/
def Leads (dialect : Dialect) (tokens : List Token) (least : Nat) (parse : Parse (Option Expr))
    (used : List Token) (ahead : Token) (result : Except Diagnostic Expr) : Prop :=
  ∀ front rest problems, tokens = front ++ (used ++ rest) → Token.next rest = ahead →
    parse (behind front problems) =
      match result with
      | .error problem => some (none, behind (front ++ used) (problems ++ [problem]))
      | .ok tree =>
        parseOperators dialect tokens least (some tree) (behind (front ++ used) problems)

/-- A term is read and operators are left to go on with, at either level of operators.
No operator between factors is among them. -/
structure LeadsOn (dialect : Dialect) (tokens : List Token) (parse : Nat → Parse (Option Expr))
    (used : List Token) (ahead : Token) (result : Except Diagnostic Expr) : Prop where
  leads : ∀ least ≤ 10, Leads dialect tokens least (parse least) used ahead result
  ends : ∀ tree, result = .ok tree → ¬ JoinsFactors dialect ahead

/-- The function that reads a phrase follows a walk over it. A term leads on, since the
same loop reads the terms behind it. -/
def Follows (dialect : Dialect) (tokens : List Token) :
    (phrase : Phrase) → List Token → Token → Except Diagnostic phrase.Tree → Prop
  | .level .expression, used, ahead, result =>
    Reads tokens (parseExpression dialect tokens 0) used ahead result
  | .level .term, used, ahead, result =>
    LeadsOn dialect tokens (parseExpression dialect tokens) used ahead result
  | .level .factor, used, ahead, result =>
    Reads tokens (parseFactor dialect tokens) used ahead result
  | .more .sum left, used, ahead, result =>
    ¬ JoinsFactors dialect (Token.next (used ++ [ahead])) →
      Reads tokens (parseOperators dialect tokens 0 (some left)) used ahead result
  | .more .product left, used, ahead, result =>
    LeadsOn dialect tokens (fun least => parseOperators dialect tokens least (some left)) used ahead
      result
  | .primary, used, ahead, result =>
    Reads tokens (parsePrimary dialect tokens) used ahead result
  | .call callee, used, ahead, result =>
    Reads tokens (parseCall dialect tokens callee) used ahead result
  | .arguments, used, ahead, result =>
    Reads tokens (parseArgumentList dialect tokens) used ahead result ∧
      ∀ args, result = .ok args → 0 < args.length

/-- The loop ends before an operator that does not bind strongly enough. It gives the operand that
it has, and the operator is left for the loop around it. -/
theorem parseOperators_stops {least : Nat} (left : Option Expr) (rest : List Token)
    (split : tokens = front ++ rest) (weak : bindingPower dialect (Token.next rest).kind ≤ least) :
    parseOperators dialect tokens least left (behind front problems) =
      some (left, behind front problems) := by
  rw [parseOperators, run_bind (look_eq split), if_pos weak]
  rfl

/-- The loop ends when the operand behind an operator is refused. The tree in front of the
operator is given up, and only the diagnostic of the operand is kept. -/
theorem parseOperators_refused {least : Nat} {op : Token} {after : Cursor} (left : Option Expr)
    (split : tokens = front ++ op :: rest) (strong : least < bindingPower dialect op.kind)
    (operand : parseExpression dialect tokens (bindingPower dialect op.kind)
      (behind (front ++ [op]) problems) = some (none, after)) :
    parseOperators dialect tokens least left (behind front problems) = some (none, after) := by
  rw [parseOperators, run_bind (look_eq split), Token.next_cons, if_neg (Nat.not_le.mpr strong),
    run_bind (advance_eq split), run_bind operand]
  rfl

/-- The loop goes on behind an operator and its operand, with the two operands joined to one tree.
So operators of one level group to the left. -/
theorem parseOperators_joined {least : Nat} {op : Token} {after : Cursor} {left right : Expr}
    (split : tokens = front ++ op :: rest) (strong : least < bindingPower dialect op.kind)
    (operand : parseExpression dialect tokens (bindingPower dialect op.kind)
      (behind (front ++ [op]) problems) = some (some right, after)) :
    parseOperators dialect tokens least (some left) (behind front problems) =
      parseOperators dialect tokens least (some (Expr.join op.kind left right)) after := by
  conv => lhs; rw [parseOperators]
  rw [run_bind (look_eq split), Token.next_cons, if_neg (Nat.not_le.mpr strong),
    run_bind (advance_eq split), run_bind operand]
  rfl

variable {used more : List Token} {op ahead : Token} {left right tree : Expr}
  {problem : Diagnostic} {result : Except Diagnostic Expr}

/-- An operand that is a factor leads on to the operators behind it, or is refused together with
everything that they would have joined. -/
theorem Reads.leads (factor : Reads tokens (parseFactor dialect tokens) used ahead result)
    (least : Nat) :
    Leads dialect tokens least (parseExpression dialect tokens least) used ahead result := by
  intro front rest problems split next
  rw [parseExpression, run_bind (factor front rest problems split next)]
  cases result <;> rfl

/-- No operator binds more strongly than those between factors, so that only a factor is
read behind one of these. -/
theorem Reads.operand (factor : Reads tokens (parseFactor dialect tokens) used ahead result) :
    Reads tokens (parseExpression dialect tokens 20) used ahead result := by
  intro front rest problems split next
  have run := factor.leads 20 front rest problems split next
  cases result with
  | error problem => exact run
  | ok tree =>
    refine run.trans (parseOperators_stops (some tree) rest ?_ (bindingPower_le dialect _))
    rw [split, List.append_assoc]

/-- Behind an operator between terms a whole term is read. -/
theorem LeadsOn.operand
    (term : LeadsOn dialect tokens (parseExpression dialect tokens) used ahead result) :
    Reads tokens (parseExpression dialect tokens 10) used ahead result := by
  intro front rest problems split next
  have run := term.leads 10 (Nat.le_refl 10) front rest problems split next
  cases result with
  | error problem => exact run
  | ok tree =>
    subst next
    refine run.trans (parseOperators_stops (some tree) rest ?_
      (bindingPower_le_terms (term.ends tree rfl)))
    rw [split, List.append_assoc]

/-- The operand behind an operator of a chain is read by the loop at the binding power of that
operator, for either level. -/
theorem Follows.operand {chain : Chain} (joins : chain.Joins dialect op)
    (operand : Follows dialect tokens (.level chain.operand) used ahead result) :
    Reads tokens (parseExpression dialect tokens (bindingPower dialect op.kind)) used ahead
      result := by
  cases chain with
  | sum =>
    rw [bindingPower_terms joins]
    exact LeadsOn.operand operand
  | product =>
    rw [bindingPower_factors joins]
    exact Reads.operand operand

/-- Reading that leads to an operand comes down to reading the operators behind it, from the
cursor behind the tokens of the operand. -/
theorem Leads.onward {least : Nat} {parse : Parse (Option Expr)}
    (leads : Leads dialect tokens least parse used (Token.next (more ++ [ahead])) (.ok left))
    (split : tokens = front ++ (used ++ more ++ rest)) (next : Token.next rest = ahead) :
    tokens = front ++ used ++ (more ++ rest) ∧
      parse (behind front problems) =
        parseOperators dialect tokens least (some left) (behind (front ++ used) problems) := by
  rw [List.append_assoc] at split
  have between : Token.next (more ++ rest) = Token.next (more ++ [ahead]) := by
    rw [Token.next_append, next]
  refine ⟨?_, leads front (more ++ rest) problems split between⟩
  rw [split, List.append_assoc]

/-- Reading that leads to an operand goes on with what leads from there, over the tokens of both. -/
theorem Leads.leads {least : Nat} {parse : Parse (Option Expr)}
    (first : Leads dialect tokens least parse used (Token.next (more ++ [ahead])) (.ok left))
    (second : Leads dialect tokens least (parseOperators dialect tokens least (some left)) more
      ahead result) :
    Leads dialect tokens least parse (used ++ more) ahead result := by
  intro front rest problems split next
  obtain ⟨regrouped, comesDown⟩ := first.onward split next
  rw [comesDown, ← List.append_assoc]
  exact second (front ++ used) rest problems regrouped next

/-- Reading that leads to an operand ends where what is behind it ends, with the same result. -/
theorem Leads.reads {least : Nat} {parse : Parse (Option Expr)}
    (first : Leads dialect tokens least parse used (Token.next (more ++ [ahead])) (.ok left))
    (second : Reads tokens (parseOperators dialect tokens least (some left)) more ahead result) :
    Reads tokens parse (used ++ more) ahead result := by
  intro front rest problems split next
  obtain ⟨regrouped, comesDown⟩ := first.onward split next
  rw [comesDown, ← List.append_assoc]
  exact second (front ++ used) rest problems regrouped next

/-- An operator and its operand lead on, with the operand joined to what is before them. -/
theorem Follows.link {chain : Chain} {least : Nat} (joins : chain.Joins dialect op)
    (strong : least < bindingPower dialect op.kind) (left : Expr)
    (operand : Follows dialect tokens (.level chain.operand) used ahead result) :
    Leads dialect tokens least (parseOperators dialect tokens least (some left)) (op :: used) ahead
      (result.map (Expr.join op.kind left)) := by
  intro front rest problems split next
  rw [List.cons_append] at split
  have read := Follows.operand joins operand (front ++ [op]) rest problems (split_cons split) next
  rw [List.append_assoc, List.singleton_append] at read
  cases result with
  | error problem => exact parseOperators_refused (some left) split strong read
  | ok right => exact parseOperators_joined split strong read

/-- The loop ends behind a sum: what is ahead joins neither terms nor factors, so it binds to
nothing, and the sum is the result. -/
theorem reads_sumEnds (ends : ¬ JoinsTerms ahead) (noFactors : ¬ JoinsFactors dialect ahead) :
    Reads tokens (parseOperators dialect tokens 0 (some left)) [] ahead (.ok left) := by
  intro front rest problems split next
  subst next
  rw [List.append_nil]
  exact parseOperators_stops (some left) rest split
    (Nat.le_of_eq (bindingPower_none noFactors ends))

/-! ### Factors and primaries -/

/-- A minus in front of a factor is refused at its own place where the dialect has no negation.
Nothing behind it is looked at. -/
theorem reads_negationDisabled {sign : Token} (minus : sign.kind = .minus)
    (disabled : dialect.negation = false) :
    Reads tokens (parseFactor dialect tokens) [sign] ahead
      (.error (Problem.negationDisabled.diagnostic sign.span)) := by
  intro front rest problems split next
  rw [List.singleton_append] at split
  rw [parseFactor, run_bind (look_eq split), Token.next_cons, if_pos minus,
    run_bind (advance_eq split), if_pos disabled]
  rfl

/-- A minus in front of a primary negates that, where the dialect has negation. The tree reaches
from the sign to the end of the operand. -/
theorem reads_negated {sign : Token} (enabled : dialect.negation = true)
    (minus : sign.kind = .minus)
    (operand : Reads tokens (parsePrimary dialect tokens) used ahead result) :
    Reads tokens (parseFactor dialect tokens) (sign :: used) ahead
      (result.map fun tree => .unary ⟨sign.span.start, tree.span.stop⟩ .minus tree) := by
  intro front rest problems split next
  rw [List.cons_append] at split
  have read := operand (front ++ [sign]) rest problems (split_cons split) next
  rw [parseFactor, run_bind (look_eq split), Token.next_cons, if_pos minus,
    run_bind (advance_eq split), if_neg (by rw [enabled]; decide), run_bind read, List.append_assoc]
  cases result <;> rfl

/-- A factor without a sign starts with a primary. Whether it ends there is decided by the token
behind it. -/
theorem parseFactor_unsigned (split : tokens = front ++ (used ++ rest))
    (next : Token.next rest = ahead) (unsigned : (Token.next (used ++ [ahead])).kind ≠ .minus) :
    parseFactor dialect tokens (behind front problems) =
      (do
        let base ← parsePrimary dialect tokens
        if base.isNone then return none
        else do
          let op ← look tokens
          if op.kind = .power then do
            let _ ← advance tokens
            let exponent ← parseFactor dialect tokens
            if exponent.isNone then return none
            else join .power base exponent
          else return base : Parse (Option Expr)) (behind front problems) := by
  have seen : (Token.next (used ++ rest)).kind ≠ .minus := by
    rwa [Token.next_append, next]
  conv => lhs; rw [parseFactor]
  rw [run_bind (look_eq split), if_neg seen]

/-- A primary that is not raised is a factor, and so is one that is refused, whatever is ahead of
it then. -/
theorem reads_unraised (unsigned : (Token.next (used ++ [ahead])).kind ≠ .minus)
    (base : Reads tokens (parsePrimary dialect tokens) used ahead result)
    (ends : ∀ tree, result = .ok tree → ahead.kind ≠ .power) :
    Reads tokens (parseFactor dialect tokens) used ahead result := by
  intro front rest problems split next
  have read := base front rest problems split next
  rw [parseFactor_unsigned split next unsigned]
  cases result with
  | error problem => exact run_missing read
  | ok tree =>
    subst next
    have regrouped : tokens = front ++ used ++ rest := by
      rw [split, List.append_assoc]
    rw [run_present read, run_bind (look_eq regrouped), if_neg (ends tree rfl)]
    rfl

/-- A primary that is raised to a factor is a factor. The exponent is read by the same function
again, so that powers group to the right. -/
theorem reads_raised (unsigned : (Token.next (used ++ [op])).kind ≠ .minus)
    (base : Reads tokens (parsePrimary dialect tokens) used op (.ok tree))
    (raises : op.kind = .power)
    (exponent : Reads tokens (parseFactor dialect tokens) more ahead result) :
    Reads tokens (parseFactor dialect tokens) (used ++ op :: more) ahead
      (result.map (Expr.join .power tree)) := by
  intro front rest problems split next
  rw [List.append_assoc, List.cons_append] at split
  have regrouped : tokens = front ++ used ++ op :: (more ++ rest) := by
    rw [split, List.append_assoc]
  have read := base front (op :: (more ++ rest)) problems split rfl
  have readMore := exponent (front ++ used ++ [op]) rest problems (split_cons regrouped) next
  have same : front ++ used ++ [op] ++ more = front ++ (used ++ op :: more) := by
    simp only [List.append_assoc, List.singleton_append]
  rw [same] at readMore
  rw [parseFactor_unsigned split rfl unsigned, run_present read, run_bind (look_eq regrouped),
    Token.next_cons, if_pos raises, run_bind (advance_eq regrouped)]
  cases result with
  | error problem => exact run_missing readMore
  | ok power => exact (run_present readMore).trans rfl

/-- A numeral is a primary with the value that it denotes. One that denotes none is read as well,
and refused as malformed. -/
theorem reads_number {token : Token} (numeric : token.kind = .number) :
    Reads tokens (parsePrimary dialect tokens) [token] ahead
      (match Number.ofNumeral? token.lexeme with
        | none => .error ((Problem.malformedNumeral token.lexeme).diagnostic token.span)
        | some value => .ok (.numeral token.span token.lexeme value)) := by
  intro front rest problems split next
  rw [List.singleton_append] at split
  rw [parsePrimary, run_bind (look_eq split), Token.next_cons, if_pos numeric,
    run_bind (advance_eq split)]
  cases Number.ofNumeral? token.lexeme <;> rfl

/-- What comes behind a name decides whether it is called: only a parenthesis opens arguments. -/
theorem parsePrimary_name {token : Token} (named : IsName dialect token)
    (split : tokens = front ++ token :: rest) :
    parsePrimary dialect tokens (behind front problems) =
      (if (Token.next rest).kind = .leftParen then do
        let _ ← advance tokens
        let call ← parseCall dialect tokens (Name.ofToken token)
        return call.map Call.toExpr
      else return some (.name (Name.ofToken token)) : Parse (Option Expr))
        (behind (front ++ [token]) problems) := by
  conv => lhs; rw [parsePrimary]
  rw [run_bind (look_eq split), Token.next_cons, if_neg (not_number_of_isName named),
    if_pos ((isName_iff dialect token).mpr named), run_bind (advance_eq split),
    run_bind (look_eq (split_cons split))]

/-- A name that no parenthesis follows is a primary by itself. -/
theorem reads_name {token : Token} (named : IsName dialect token) (ends : ahead.kind ≠ .leftParen) :
    Reads tokens (parsePrimary dialect tokens) [token] ahead
      (.ok (.name (Name.ofToken token))) := by
  intro front rest problems split next
  subst next
  rw [List.singleton_append] at split
  rw [parsePrimary_name named split, if_neg ends]
  rfl

/-- A name with an opening parenthesis behind it is a call, if its arguments are read up to the
parenthesis that closes them, and refused as they are otherwise. -/
theorem reads_called {token opening : Token} {result : Except Diagnostic Call}
    (named : IsName dialect token) (opens : opening.kind = .leftParen)
    (call : Reads tokens (parseCall dialect tokens (Name.ofToken token)) used ahead result) :
    Reads tokens (parsePrimary dialect tokens) (token :: opening :: used) ahead
      (result.map Call.toExpr) := by
  intro front rest problems split next
  rw [List.cons_append, List.cons_append] at split
  have behindName := split_cons split
  have read := call (front ++ [token] ++ [opening]) rest problems (split_cons behindName) next
  rw [parsePrimary_name named split, Token.next_cons, if_pos opens,
    run_bind (advance_eq behindName), run_bind read]
  simp only [List.append_assoc, List.singleton_append]
  cases result <;> rfl

/-- Behind an opening parenthesis a whole expression is read, and then the parenthesis that closes
it. -/
theorem parsePrimary_group {opening : Token} (opens : opening.kind = .leftParen)
    (split : tokens = front ++ opening :: rest) :
    parsePrimary dialect tokens (behind front problems) =
      (do
        let tree ← parseExpression dialect tokens 0
        if tree.isNone then return none
        else do
          let closing ← expect tokens .rightParen
          if closing.isNone then return none
          else return tree : Parse (Option Expr)) (behind (front ++ [opening]) problems) := by
  have noName : ¬ dialect.isName opening = true := by simp [Dialect.isName, opens]
  conv => lhs; rw [parsePrimary]
  rw [run_bind (look_eq split), Token.next_cons, if_neg (by rw [opens]; decide), if_neg noName,
    if_pos opens, run_bind (advance_eq split)]

/-- An expression in parentheses that is refused makes the group refused, with the same
diagnostic. Whether the group is closed is not looked at. -/
theorem reads_groupRefused {opening : Token} (opens : opening.kind = .leftParen)
    (grouped : Reads tokens (parseExpression dialect tokens 0) used ahead (.error problem)) :
    Reads tokens (parsePrimary dialect tokens) (opening :: used) ahead (.error problem) := by
  intro front rest problems split next
  rw [List.cons_append] at split
  have read := grouped (front ++ [opening]) rest problems (split_cons split) next
  rw [List.append_assoc] at read
  rw [parsePrimary_group opens split]
  exact run_missing read

/-- An expression in parentheses that is not closed is refused at the token that stands where the
parenthesis should. -/
theorem reads_groupOpen {opening : Token} (opens : opening.kind = .leftParen)
    (grouped : Reads tokens (parseExpression dialect tokens 0) used ahead (.ok tree))
    (unclosed : ahead.kind ≠ .rightParen) :
    Reads tokens (parsePrimary dialect tokens) (opening :: used) ahead
      (.error ((Problem.expected .rightParen ahead).diagnostic ahead.span)) := by
  intro front rest problems split next
  subst next
  rw [List.cons_append] at split
  have read := grouped (front ++ [opening]) rest problems (split_cons split) rfl
  have regrouped : tokens = front ++ opening :: used ++ rest := by
    rw [split, List.append_assoc, List.cons_append]
  rw [List.append_assoc] at read
  rw [parsePrimary_group opens split, run_present read]
  exact run_missing (expect_refused regrouped unclosed)

/-- An expression in parentheses is a primary. Its tree is that of the expression inside, and the
parentheses leave no trace in it. -/
theorem reads_grouped {opening closing : Token} (opens : opening.kind = .leftParen)
    (grouped : Reads tokens (parseExpression dialect tokens 0) used closing (.ok tree))
    (closes : closing.kind = .rightParen) :
    Reads tokens (parsePrimary dialect tokens) (opening :: (used ++ [closing])) ahead
      (.ok tree) := by
  intro front rest problems split next
  have split₀ : tokens = front ++ opening :: (used ++ closing :: rest) := by
    rw [split]
    simp only [List.cons_append, List.append_assoc, List.nil_append]
  have read := grouped (front ++ [opening]) (closing :: rest) problems (split_cons split₀) rfl
  have regrouped : tokens = front ++ opening :: used ++ closing :: rest := by
    rw [split₀, List.append_assoc, List.cons_append]
  have closed := @expect_found tokens (front ++ opening :: used) rest problems closing regrouped
  rw [List.append_assoc] at read
  rw [closes] at closed
  rw [parsePrimary_group opens split₀, run_present read]
  refine (run_present closed).trans ?_
  rw [List.append_assoc]
  rfl

/-- What is neither a numeral nor a name nor an opening parenthesis begins no expression. It is
refused at its place and is not read. -/
theorem reads_noPrimary (noNumber : ahead.kind ≠ .number) (noName : ¬ IsName dialect ahead)
    (noGroup : ahead.kind ≠ .leftParen) :
    Reads tokens (parsePrimary dialect tokens) [] ahead
      (.error ((Problem.expectedExpression ahead).diagnostic ahead.span)) := by
  intro front rest problems split next
  subst next
  rw [List.append_nil, parsePrimary, run_bind (look_eq split), List.nil_append, if_neg noNumber,
    if_neg fun named => noName ((isName_iff dialect _).mp named), if_neg noGroup]
  rfl

/-! ### Calls -/

/-- Where there are no arguments, their span ends where it starts, and no token is asked for its
place. -/
theorem argumentsStop_none (start : Position) (cursor : Cursor) :
    argumentsStop tokens start [] cursor = some (start, cursor) := rfl

/-- A call that is closed at once has no arguments. -/
theorem reads_noArguments {callee : Name} {closing : Token} (closes : closing.kind = .rightParen) :
    Reads tokens (parseCall dialect tokens callee) [closing] ahead
      (.ok (Call.between callee [] closing [])) := by
  intro front rest problems split next
  rw [List.singleton_append] at split
  have none : parseArguments dialect tokens (behind front problems) =
      some (some [], behind front problems) := by
    rw [parseArguments, run_bind (look_eq split), Token.next_cons, if_pos closes]
    rfl
  have closed := @expect_found tokens front rest problems closing split
  rw [closes] at closed
  rw [parseCall, run_bind (look_eq split), run_present none, run_bind (deref_some [] _),
    Token.next_cons, run_bind (argumentsStop_none closing.span.start _)]
  exact (run_present closed).trans rfl

/-- Arguments are read unless the call is closed at once. Behind them their span is settled, and
then the parenthesis is expected. -/
theorem parseCall_arguments {callee : Name} (split : tokens = front ++ (used ++ rest))
    (next : Token.next rest = ahead) (begun : (Token.next (used ++ [ahead])).kind ≠ .rightParen) :
    parseCall dialect tokens callee (behind front problems) =
      (do
        let args ← parseArgumentList dialect tokens
        if args.isNone then return none
        else do
          let args ← deref args
          let stop ← argumentsStop tokens (Token.next (used ++ [ahead])).span.start args
          let closing ← expect tokens .rightParen
          if closing.isNone then return none
          else do
            let closing ← deref closing
            return some ⟨⟨callee.span.start, closing.span.stop⟩, callee, args,
              ⟨(Token.next (used ++ [ahead])).span.start, stop⟩⟩ : Parse (Option Call))
        (behind front problems) := by
  have seen : Token.next (used ++ rest) = Token.next (used ++ [ahead]) := by
    rw [Token.next_append, next]
  have list : parseArguments dialect tokens (behind front problems) =
      parseArgumentList dialect tokens (behind front problems) := by
    rw [parseArguments, run_bind (look_eq split), seen, if_neg begun]
  conv => lhs; rw [parseCall]
  rw [run_bind (look_eq split), seen]
  change Option.bind (parseArguments dialect tokens (behind front problems)) _ = _
  rw [list]
  rfl

/-- Arguments that are refused make the call refused, with the same diagnostic. -/
theorem reads_argumentsRefused {callee : Name}
    (begun : (Token.next (used ++ [ahead])).kind ≠ .rightParen)
    (listed : Reads tokens (parseArgumentList dialect tokens) used ahead (.error problem)) :
    Reads tokens (parseCall dialect tokens callee) used ahead (.error problem) := by
  intro front rest problems split next
  rw [parseCall_arguments split next begun]
  exact run_missing (listed front rest problems split next)

/-- Behind arguments the place is known where they end: it is the end of the last token that was
read for them. There is such a token, because there is an argument. -/
theorem argumentsStop_eq {args : List Expr} (present : 0 < args.length) (some : used ≠ [])
    (split : tokens = front ++ (used ++ rest)) (start : Position) :
    argumentsStop tokens start args (behind (front ++ used) problems) =
      .some (Token.lastStop start used, behind (front ++ used) problems) := by
  rw [argumentsStop, if_pos present]
  exact previousStop_lastStop some split start

/-- Arguments that are not closed are refused at the token that stands where the parenthesis
should. -/
theorem reads_argumentsOpen {callee : Name} {args : List Expr}
    (begun : (Token.next (used ++ [ahead])).kind ≠ .rightParen) (some : used ≠ [])
    (present : 0 < args.length)
    (listed : Reads tokens (parseArgumentList dialect tokens) used ahead (.ok args))
    (unclosed : ahead.kind ≠ .rightParen) :
    Reads tokens (parseCall dialect tokens callee) used ahead
      (.error ((Problem.expected .rightParen ahead).diagnostic ahead.span)) := by
  intro front rest problems split next
  subst next
  have regrouped : tokens = front ++ used ++ rest := by
    rw [split, List.append_assoc]
  rw [parseCall_arguments split rfl begun, run_present (listed front rest problems split rfl),
    run_bind (deref_some args _), run_bind (argumentsStop_eq present some split _)]
  exact run_missing (expect_refused regrouped unclosed)

/-- Arguments that are closed make a call. Its span of arguments reaches from the token behind the
parenthesis to the end of the last argument. -/
theorem reads_argumentsClosed {callee : Name} {closing : Token} {args : List Expr}
    (begun : (Token.next (used ++ [closing])).kind ≠ .rightParen) (some : used ≠ [])
    (present : 0 < args.length)
    (listed : Reads tokens (parseArgumentList dialect tokens) used closing (.ok args))
    (closes : closing.kind = .rightParen) :
    Reads tokens (parseCall dialect tokens callee) (used ++ [closing]) ahead
      (.ok (Call.between callee used closing args)) := by
  intro front rest problems split next
  rw [List.append_assoc, List.singleton_append] at split
  have regrouped : tokens = front ++ used ++ closing :: rest := by
    rw [split, List.append_assoc]
  have closed := @expect_found tokens (front ++ used) rest problems closing regrouped
  rw [closes] at closed
  rw [parseCall_arguments split rfl begun,
    run_present (listed front (closing :: rest) problems split rfl), run_bind (deref_some args _),
    run_bind (argumentsStop_eq present some split _)]
  refine (run_present closed).trans ?_
  rw [← List.append_assoc]
  rfl

/-- An expression that no comma follows is the last of the arguments, and one that is refused ends
them. The cursor looks for a comma only behind an argument that was read. -/
theorem reads_lastArgument
    (first : Reads tokens (parseExpression dialect tokens 0) used ahead result)
    (ends : ∀ tree, result = .ok tree → ahead.kind ≠ .comma) :
    Reads tokens (parseArgumentList dialect tokens) used ahead (result.map fun tree => [tree]) := by
  intro front rest problems split next
  have read := first front rest problems split next
  rw [parseArgumentList]
  cases result with
  | error problem => exact run_missing read
  | ok tree =>
    subst next
    have regrouped : tokens = front ++ used ++ rest := by
      rw [split, List.append_assoc]
    rw [run_present read, run_bind (deref_some tree _), run_bind (look_eq regrouped),
      if_neg (ends tree rfl)]
    rfl

/-- Behind an argument and a comma there are more arguments, which are read by the same function
again. The cursor passes the comma between the two, and the argument is put before the others once
they are read. -/
theorem reads_moreArguments {comma : Token} {others : Except Diagnostic (List Expr)}
    (first : Reads tokens (parseExpression dialect tokens 0) used comma (.ok tree))
    (separates : comma.kind = .comma)
    (list : Reads tokens (parseArgumentList dialect tokens) more ahead others) :
    Reads tokens (parseArgumentList dialect tokens) (used ++ comma :: more) ahead
      (others.map (tree :: ·)) := by
  intro front rest problems split next
  rw [List.append_assoc, List.cons_append] at split
  have regrouped : tokens = front ++ used ++ comma :: (more ++ rest) := by
    rw [split, List.append_assoc]
  have read : parseExpression dialect tokens 0 (behind front problems) =
      some (some tree, behind (front ++ used) problems) :=
    first front (comma :: (more ++ rest)) problems split rfl
  have readMore := list (front ++ used ++ [comma]) rest problems (split_cons regrouped) next
  have same : front ++ used ++ [comma] ++ more = front ++ (used ++ comma :: more) := by
    simp only [List.append_assoc, List.singleton_append]
  rw [same] at readMore
  conv => lhs; rw [parseArgumentList]
  rw [run_present read, run_bind (deref_some tree _), run_bind (look_eq regrouped), Token.next_cons,
    if_pos separates, run_bind (advance_eq regrouped), run_bind readMore]
  cases others <;> rfl

/-- Some tokens are used when a phrase is read that leaves fewer of them behind. A walk says this
only through the outcome that it determines, which is why both are needed here. -/
theorem used_of_fewer {phrase : Phrase} {tree : phrase.Tree}
    (walk : Walk dialect phrase used ahead (.ok tree))
    (fewer : ∀ tokens, ∃ reading : Reading phrase.Tree tokens.length,
      phrase.outcome dialect .nowhere tokens = reading.outcome) : used ≠ [] := by
  rintro rfl
  obtain ⟨reading, same⟩ := fewer [ahead]
  have outcome := same.symm.trans (walk.outcome_eq .nowhere [ahead] rfl)
  cases reading with
  | refused problem rest noMore => cases outcome
  | read value stop rest fewer =>
    cases outcome
    exact absurd fewer (Nat.lt_irrefl 1)

/-- Some tokens are used when arguments are read. So there is a token before the cursor whose end
can be asked for. -/
theorem used_of_arguments {args : List Expr}
    (walk : Walk dialect .arguments used ahead (.ok args)) : used ≠ [] :=
  used_of_fewer walk fun tokens => ⟨Reading.arguments dialect tokens, rfl⟩

/-- Every phrase is read along any walk over it.

Proof: induction on the walk, rule by rule. A term is read by the loop that also reads
what is joined to it, so what its rules give is where that loop goes on. -/
theorem follows_of_walk {phrase : Phrase} {result : Except Diagnostic phrase.Tree}
    (walk : Walk dialect phrase used ahead result) (tokens : List Token) :
    Follows dialect tokens phrase used ahead result := by
  induction walk with
  | @operandRefused chain used ahead problem operand read =>
    cases chain with
    | sum => exact read.leads 0 (Nat.zero_le 10)
    | product => exact ⟨fun least _ => read.leads least, nofun⟩
  | @chained chain used more ahead left result operand behind read readBehind =>
    cases chain with
    | sum => exact (read.leads 0 (Nat.zero_le 10)).reads (readBehind (read.ends left rfl))
    | product =>
      exact ⟨fun least weak => (read.leads least).leads (readBehind.leads least weak),
        readBehind.ends⟩
  | @chainEnds chain ahead left ends =>
    cases chain with
    | sum => exact reads_sumEnds ends
    | product =>
      refine ⟨fun least _ front rest problems split next => ?_, fun _ _ => ends⟩
      rw [List.append_nil]
  | @linkRefused chain op used ahead left problem joins operand read =>
    cases chain with
    | sum =>
      have strong : 0 < bindingPower dialect op.kind := by
        rw [bindingPower_terms joins]
        decide
      exact fun _ => Follows.link joins strong left read
    | product =>
      have strong : 10 < bindingPower dialect op.kind := by
        rw [bindingPower_factors joins]
        decide
      refine ⟨fun least weak => ?_, nofun⟩
      exact Follows.link joins (Nat.lt_of_le_of_lt weak strong) left read
  | @linked chain op used more ahead left right result joins operand behind read readBehind =>
    cases chain with
    | sum =>
      have strong : 0 < bindingPower dialect op.kind := by
        rw [bindingPower_terms joins]
        decide
      exact fun _ => (Follows.link joins strong left read).reads (readBehind (read.ends right rfl))
    | product =>
      have strong : 10 < bindingPower dialect op.kind := by
        rw [bindingPower_factors joins]
        decide
      refine ⟨fun least weak => ?_, readBehind.ends⟩
      exact (Follows.link joins (Nat.lt_of_le_of_lt weak strong) left read).leads
        (readBehind.leads least weak)
  | negationDisabled minus disabled => exact reads_negationDisabled minus disabled
  | negationRefused enabled minus operand read => exact reads_negated enabled minus read
  | negated enabled minus operand read => exact reads_negated enabled minus read
  | baseRefused unsigned base read =>
    exact reads_unraised unsigned read nofun
  | unraised unsigned base ends read => exact reads_unraised unsigned read fun _ _ => ends
  | exponentRefused unsigned base raises exponent read readMore =>
    exact reads_raised unsigned read raises readMore
  | raised unsigned base raises exponent read readMore =>
    exact reads_raised unsigned read raises readMore
  | @malformed token ahead numeric meaningless =>
    have read := @reads_number dialect tokens ahead token numeric
    rwa [meaningless] at read
  | @number token ahead value numeric denotes =>
    have read := @reads_number dialect tokens ahead token numeric
    rwa [denotes] at read
  | name named ends => exact reads_name named ends
  | called named opens behind read => exact reads_called named opens read
  | groupRefused opens grouped read => exact reads_groupRefused opens read
  | groupOpen opens grouped unclosed read => exact reads_groupOpen opens read unclosed
  | grouped opens grouped closes read => exact reads_grouped opens read closes
  | noPrimary noNumber noName noGroup => exact reads_noPrimary noNumber noName noGroup
  | noArguments closes => exact reads_noArguments closes
  | argumentsRefused some listed read => exact reads_argumentsRefused some read.1
  | argumentsOpen some listed unclosed read =>
    exact reads_argumentsOpen some (used_of_arguments listed) (read.2 _ rfl) read.1 unclosed
  | argumentsClosed some listed closes read =>
    exact reads_argumentsClosed some (used_of_arguments listed) (read.2 _ rfl) read.1 closes
  | argumentRefused first read =>
    exact ⟨reads_lastArgument read nofun, nofun⟩
  | lastArgument first ends read =>
    refine ⟨reads_lastArgument read fun _ _ => ends, ?_⟩
    rintro args ⟨⟩
    exact Nat.zero_lt_one
  | @moreArguments used more comma ahead tree result first separates behind read readMore =>
    refine ⟨reads_moreArguments read separates readMore.1, fun args same => ?_⟩
    cases result with
    | error problem => cases same
    | ok others =>
      cases same
      exact Nat.zero_lt_succ _

end Astro.Checked
