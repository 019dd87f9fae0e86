import Astro.Proofs.ErrorPlaces
import Astro.Proofs.Segments

/-!
# What diagnostics are about

Every diagnostic about a text is the one of a problem with one of its tokens, at the place
of that token, and there are only so many problems that a token can have
(`Problem.Concerns`). Its wording repeats no spelling but that of the token and, behind a
name that is neither assigned nor called, that of the name.
-/

namespace Astro

/-- The problems that a token can have among others. There is one rule for each form of problem,
with what has to hold of the token. -/
inductive Problem.Concerns (tokens : List Token) : Problem → Token → Prop where
  | character {token : Token} (illegal : token.kind = .illegal) :
      Concerns tokens (.unexpectedCharacter token.lexeme) token
  | empty {token : Token} (ends : token.kind = .endOfInput) : Concerns tokens .emptyProgram token
  | expected {wanted : Token.Kind} {token : Token}
      (closes : wanted = .rightParen ∨ wanted = .semicolon) (other : token.kind ≠ wanted) :
      Concerns tokens (.expected wanted token) token
  | statement (token : Token) : Concerns tokens (.expectedStatement token) token
  | expression (token : Token) : Concerns tokens (.expectedExpression token) token
  | assignOrCall {name : Token} (among : name ∈ tokens) (going : name.kind ≠ .endOfInput)
      (token : Token) : Concerns tokens (.expectedAssignOrCall name.lexeme token) token
  | negation {token : Token} (minus : token.kind = .minus) :
      Concerns tokens .negationDisabled token
  | numeral {token : Token} (numeric : token.kind = .number)
      (meaningless : Number.ofNumeral? token.lexeme = none) :
      Concerns tokens (.malformedNumeral token.lexeme) token

namespace Diagnostic

/-- A diagnostic is that of a problem with one of some tokens, at the token. -/
def Concerns (diagnostic : Diagnostic) (tokens : List Token) : Prop :=
  ∃ problem token, token ∈ tokens ∧ Problem.Concerns tokens problem token ∧
    diagnostic = problem.diagnostic token.span

variable {diagnostic : Diagnostic} {tokens : List Token}

/-- A problem with one of some tokens is one among more of them. -/
theorem Concerns.wider {more : List Token} (concerns : diagnostic.Concerns tokens)
    (subset : tokens ⊆ more) : diagnostic.Concerns more := by
  obtain ⟨problem, token, member, cause, same⟩ := concerns
  refine ⟨problem, token, subset member, ?_, same⟩
  cases cause with
  | character illegal => exact .character illegal
  | empty ends => exact .empty ends
  | expected closes other => exact .expected closes other
  | statement => exact .statement token
  | expression => exact .expression token
  | assignOrCall among going => exact .assignOrCall (subset among) going token
  | negation minus => exact .negation minus
  | numeral numeric meaningless => exact .numeral numeric meaningless

/-- A problem with one of some tokens is one behind others. -/
theorem Concerns.behind (concerns : diagnostic.Concerns tokens) (front : List Token) :
    diagnostic.Concerns (front ++ tokens) :=
  concerns.wider (List.subset_append_right front tokens)

/-- A problem with the token ahead is one behind those used. -/
theorem concerns_ahead {problem : Problem} {ahead : Token} (used : List Token)
    (cause : problem.Concerns [ahead] ahead) :
    (problem.diagnostic ahead.span).Concerns (used ++ [ahead]) :=
  Concerns.behind ⟨problem, ahead, List.mem_singleton_self ahead, cause, rfl⟩ used

end Diagnostic

namespace Reading

open Diagnostic

/-- A phrase is refused for a problem with a token used or with the one ahead.

Proof: induction on the walk. A rule that refuses the phrase itself complains about the token
ahead, a sign or a numeral. The others pass on the complaint about a part, whose tokens and token
ahead are among those of the whole. -/
theorem Walk.concerns {dialect : Dialect} {phrase : Phrase} {used : List Token} {ahead : Token}
    {result : Except Diagnostic phrase.Tree} (walk : Walk dialect phrase used ahead result)
    (problem : Diagnostic) (failed : result = .error problem) :
    problem.Concerns (used ++ [ahead]) := by
  induction walk with
  | operandRefused operand inside =>
    cases failed
    exact inside rfl
  | chained operand behind _ inside =>
    rw [List.append_assoc]
    exact (inside failed).behind _
  | @linkRefused chain op used ahead left _ joins operand inside =>
    cases failed
    exact (inside rfl).behind [op]
  | @linked chain op used more ahead left right result joins operand behind _ inside =>
    rw [← List.cons_append, List.append_assoc]
    exact (inside failed).behind (op :: used)
  | @negationDisabled sign ahead minus disabled =>
    cases failed
    exact ⟨.negationDisabled, sign, List.mem_cons_self, .negation minus, rfl⟩
  | @negationRefused sign used ahead _ enabled minus operand inside =>
    cases failed
    exact (inside rfl).behind [sign]
  | baseRefused unsigned base inside =>
    cases failed
    exact inside rfl
  | exponentRefused unsigned base raises exponent _ inside =>
    cases failed
    rw [List.append_assoc, List.cons_append, ← List.singleton_append, ← List.append_assoc]
    exact (inside rfl).behind _
  | @malformed token ahead numeric meaningless =>
    cases failed
    exact ⟨.malformedNumeral token.lexeme, token, List.mem_cons_self,
      .numeral numeric meaningless, rfl⟩
  | @called token opening ahead used result named opens behind inside =>
    cases result with
    | ok call => cases failed
    | error found =>
      cases failed
      exact (inside rfl).behind [token, opening]
  | @groupRefused opening ahead used _ opens grouped inside =>
    cases failed
    exact (inside rfl).behind [opening]
  | @groupOpen opening ahead used tree opens grouped unclosed =>
    cases failed
    exact concerns_ahead _ (.expected (.inl rfl) unclosed)
  | @noPrimary ahead noNumber noName noGroup =>
    cases failed
    exact concerns_ahead [] (.expression ahead)
  | argumentsRefused some listed inside =>
    cases failed
    exact inside rfl
  | argumentsOpen some listed unclosed =>
    cases failed
    exact concerns_ahead _ (.expected (.inl rfl) unclosed)
  | argumentRefused first inside =>
    cases failed
    exact inside rfl
  | @moreArguments used more comma ahead tree result first separates behind _ inside =>
    cases result with
    | ok args => cases failed
    | error found =>
      cases failed
      rw [List.append_assoc, List.cons_append, ← List.singleton_append, ← List.append_assoc]
      exact (inside rfl).behind _
  | _ => cases failed

/-- What refuses a phrase with its semicolon concerns the tokens that it used and the one ahead of
them. It is the phrase's own complaint, or the missing semicolon's. -/
theorem Terminated.concerns {dialect : Dialect} {phrase : Phrase} {start : Position}
    {build : Span → phrase.Tree → Stmt} {used : List Token} {ahead : Token} {problem : Diagnostic}
    (walked : Terminated dialect phrase start build used ahead (.error problem)) :
    problem.Concerns (used ++ [ahead]) := by
  cases walked with
  | refused walk => exact walk.concerns problem rfl
  | unended walk goesOn => exact concerns_ahead used (.expected (.inr rfl) goesOn)

/-- A statement is refused for a problem with a token used or with the one ahead. -/
theorem StatementWalk.concerns {dialect : Dialect} {used : List Token} {ahead : Token}
    {problem : Diagnostic} (walk : StatementWalk dialect used ahead (.error problem)) :
    problem.Concerns (used ++ [ahead]) := by
  cases walk with
  | @print word _ used _ prints keyword behind => exact behind.concerns.behind [word]
  | @assign name sign _ used _ named assigns behind => exact behind.concerns.behind [name, sign]
  | @call name opening _ used _ named opens behind => exact behind.concerns.behind [name, opening]
  | @neither name _ named noAssign noCall =>
    have going := (inside_of_isName named).2
    exact ⟨_, ahead, by simp, .assignOrCall List.mem_cons_self going ahead, rfl⟩
  | noStatement noName noPrint => exact concerns_ahead [] (.statement ahead)

/-- Every diagnostic of reading tokens that end the input is about one of the tokens.

Proof: induction on the statements. A refused statement complains about a token that it used or
the one ahead, and what is reported later is about a token left behind. -/
theorem concerns_of_mem (dialect : Dialect) {tokens : List Token} {diagnostic : Diagnostic}
    (ends : ∃ token ∈ tokens, token.kind = .endOfInput)
    (reported : diagnostic ∈ diagnostics (statements dialect tokens)) :
    diagnostic.Concerns tokens := by
  induction tokens using statements_induction dialect with
  | ended tokens atEnd =>
    rw [statements_end dialect atEnd] at reported
    cases reported
  | statement used rest result walk going behind =>
    obtain ⟨some, onward⟩ := walk.ends_leftBehind ends
    obtain ⟨segment, split, -⟩ := walk.exists_segment going
    have later (member : diagnostic ∈ diagnostics (statements dialect (leftBehind result rest))) :
        diagnostic.Concerns (used ++ rest) := by
      rw [split]
      exact (behind onward member).behind segment
    rw [walk.statements_eq rfl going] at reported
    cases result with
    | ok stmt => exact later reported
    | error problem =>
      rcases List.mem_cons.mp reported with rfl | remaining
      · refine walk.concerns.wider (List.append_subset.mpr ⟨List.subset_append_left used rest, ?_⟩)
        intro token here
        rw [List.mem_singleton.mp here]
        exact List.mem_append_right used (Token.next_mem some)
      · exact later remaining

end Reading

namespace Program

variable {dialect : Dialect} {text : Text} {diagnostic : Diagnostic}

/-- Every diagnostic about the tokens of a text is about one of them. -/
theorem concerns_of_mem_ofTokens
    (reported : diagnostic ∈ (ofTokens dialect (Token.ofText text)).2) :
    diagnostic.Concerns (Token.ofText text) := by
  have ends := Token.exists_endOfInput text
  rw [ofTokens] at reported
  split at reported
  · next atEnd =>
    obtain rfl := List.mem_singleton.mp reported
    obtain ⟨token, member, -⟩ := ends
    have first := Token.next_mem (List.ne_nil_of_mem member)
    exact ⟨.emptyProgram, Token.next (Token.ofText text), first, .empty atEnd, rfl⟩
  · exact Reading.concerns_of_mem dialect ends reported

/-- Every diagnostic about a text is about one of its tokens. Where a character starts no token,
the diagnostics are about such characters, and otherwise they are those of reading the tokens. -/
theorem concerns_of_mem (reported : diagnostic ∈ (ofText dialect text).2) :
    diagnostic.Concerns (Token.ofText text) := by
  rw [ofText] at reported
  cases legal : Token.problems (Token.ofText text) with
  | nil =>
    rw [legal] at reported
    exact concerns_of_mem_ofTokens reported
  | cons problem others =>
    rw [legal] at reported
    have member : diagnostic ∈ Token.problems (Token.ofText text) := legal ▸ reported
    rw [Token.problems_eq] at member
    obtain ⟨token, illegal, rfl⟩ := List.mem_map.mp member
    obtain ⟨among, kind⟩ := List.mem_filter.mp illegal
    exact ⟨_, token, among, .character (of_decide_eq_true kind), rfl⟩

end Program

end Astro
