import Astro.Proofs.Concatenation
import Astro.Proofs.Parsing
import Astro.Proofs.RelocatedReading
import Astro.Proofs.StatementSeams

/-!
# Refusals at the earliest token

A phrase is refused at the first token with which it cannot go on. The tokens read
before that one can be completed to a phrase, so the refusal does not come too late;
and no phrase goes on with the token at fault, so it does not come too early. Two
tokens are refused after they were read: a sign in a dialect without negation, and a
numeral that denotes no number. What stands behind them was not looked at.

The statement of a refusal starts at the first token of the program or behind a
semicolon, because a refused statement is left behind through its semicolon.
-/

namespace Astro

/-- A token of a kind, spelled by its name, that stands nowhere. -/
def Token.ofKind (kind : Token.Kind) : Token := ⟨kind, kind.text, .nowhere⟩

/-- What is seen first does not depend on what stands behind it. -/
theorem Token.next_append_of_ne_nil {tokens : List Token} (some : tokens ≠ [])
    (first second : List Token) : next (tokens ++ first) = next (tokens ++ second) := by
  cases tokens with
  | nil => exact absurd rfl some
  | cons token rest => rfl

namespace Reading

open Grammar

/-- Tokens with which a phrase can start. More tokens may be needed to complete it. -/
def Phrase.Viable (dialect : Dialect) (phrase : Phrase) (tokens : List Token) : Prop :=
  ∃ more tree, phrase.Derived dialect (tokens ++ more) tree

/-- The tokens of a whole phrase are among them. -/
theorem Phrase.viable_of_derived {dialect : Dialect} {phrase : Phrase} {tokens : List Token}
    {tree : phrase.Tree} (derived : phrase.Derived dialect tokens tree) :
    phrase.Viable dialect tokens :=
  ⟨[], tree, (List.append_nil tokens).symm ▸ derived⟩

/-- What was used and seen of some tokens when the token behind those read was refused:
it is ahead, or it was used and nothing behind it mattered. -/
def StopsAt (walks : List Token → Token → Prop) (used : List Token) (ahead : Token)
    (read : List Token) (culprit : Token) : Prop :=
  used = read ∧ ahead = culprit ∨ used = read ++ [culprit] ∧ ∀ other, walks used other

/-- What stops behind some tokens still does so when others were used before them. -/
theorem StopsAt.behind {walks wider : List Token → Token → Prop} {used read : List Token}
    {ahead culprit : Token} (stops : StopsAt walks used ahead read culprit) (front : List Token)
    (widens : ∀ other, used ≠ [] → walks used other → wider (front ++ used) other) :
    StopsAt wider (front ++ used) ahead (front ++ read) culprit := by
  rcases stops with ⟨rfl, rfl⟩ | ⟨rfl, anyway⟩
  · exact .inl ⟨rfl, rfl⟩
  · refine .inr ⟨(List.append_assoc ..).symm, ?_⟩
    intro other
    exact widens other (by simp) (anyway other)

/-- A phrase is refused at a token: the diagnostic is about that token, and the tokens
read before it can be completed. -/
structure Refusal (dialect : Dialect) (phrase : Phrase) (problem : Diagnostic)
    (used : List Token) (ahead : Token) (read : List Token) (culprit : Token) : Prop where
  place : problem.span = culprit.span
  viable : phrase.Viable dialect read
  stops : StopsAt (fun used ahead => Walk dialect phrase used ahead (.error problem))
    used ahead read culprit

/-- A phrase that is refused inside another is refused there at the same token. -/
theorem Refusal.within {dialect : Dialect} {inner outer : Phrase} {problem : Diagnostic}
    {used read : List Token} {ahead culprit : Token}
    (refusal : Refusal dialect inner problem used ahead read culprit) (front : List Token)
    (derives : ∀ tokens tree, inner.Derived dialect tokens tree →
      outer.Viable dialect (front ++ tokens))
    (widens : ∀ other, used ≠ [] → Walk dialect inner used other (.error problem) →
      Walk dialect outer (front ++ used) other (.error problem)) :
    Refusal dialect outer problem (front ++ used) ahead (front ++ read) culprit := by
  obtain ⟨place, ⟨more, tree, derived⟩, stops⟩ := refusal
  obtain ⟨further, whole, completed⟩ := derives (read ++ more) tree derived
  refine ⟨place, ⟨more ++ further, whole, ?_⟩, stops.behind front widens⟩
  simpa only [List.append_assoc] using completed

/-- A name is a primary. So every phrase that needs one can be completed. -/
theorem viable_primary (dialect : Dialect) : Phrase.primary.Viable dialect [] :=
  ⟨[Token.ofKind .name], _, Primary.name (.inl rfl)⟩

/-- Arguments that are written out can be closed. The parenthesis behind them completes the call. -/
theorem viable_call (dialect : Dialect) (callee : Name) {tokens : List Token} {args : List Expr}
    (listed : ArgumentList dialect tokens args) : (Phrase.call callee).Viable dialect tokens :=
  ⟨[Token.ofKind .rightParen], _, tokens, Token.ofKind .rightParen, args, rfl, .some listed, rfl, rfl⟩

/-- A group that is written out can be closed. The parenthesis behind it completes the group. -/
theorem viable_group {dialect : Dialect} {opening : Token} {tokens : List Token} {tree : Expr}
    (opens : opening.kind = .leftParen) (grouped : Expression dialect tokens tree) :
    Phrase.primary.Viable dialect (opening :: tokens) :=
  ⟨[Token.ofKind .rightParen], tree, Primary.group opens grouped rfl⟩

/-- Every walk to a diagnostic is a refusal.

Proof: induction on the walk. Where the phrase itself is refused, the tokens read are
completed by hand. Where a part of it is, the refusal of that part is one of the whole,
with the tokens used before that part in front. -/
theorem Walk.exists_refusal {dialect : Dialect} {phrase : Phrase} {used : List Token}
    {ahead : Token} {result : Except Diagnostic phrase.Tree}
    (walk : Walk dialect phrase used ahead result) (problem : Diagnostic)
    (failed : result = .error problem) :
    ∃ read culprit, Refusal dialect phrase problem used ahead read culprit := by
  induction walk with
  | operandRefused operand inside =>
    cases failed
    obtain ⟨read, culprit, refusal⟩ := inside rfl
    refine ⟨read, culprit, refusal.within [] ?_ ?_⟩
    · intro tokens tree derived
      exact Phrase.viable_of_derived (Chain.derived_operand derived)
    · intro other _ walk
      exact .operandRefused walk
  | @chained chain used more ahead left result operand behind _ inside =>
    obtain ⟨read, culprit, refusal⟩ := inside failed
    refine ⟨used ++ read, culprit, refusal.within used ?_ ?_⟩
    · intro tokens tree derived
      have first := Chain.derived_operand (operand.derived left rfl)
      exact Phrase.viable_of_derived (derived used first)
    · intro other some walk
      rw [Token.next_append_of_ne_nil some [ahead] [other]] at operand
      exact .chained operand walk
  | @linkRefused chain op used ahead left _ joins operand inside =>
    cases failed
    obtain ⟨read, culprit, refusal⟩ := inside rfl
    refine ⟨op :: read, culprit, refusal.within [op] ?_ ?_⟩
    · intro tokens tree derived
      have linked : (Phrase.more chain left).Derived dialect (op :: tokens)
          (Expr.join op.kind left tree) := by
        intro first before
        exact Chain.derived_join before joins derived
      exact Phrase.viable_of_derived linked
    · intro other _ walk
      exact .linkRefused joins walk
  | @linked chain op used more ahead left right result joins operand behind _ inside =>
    obtain ⟨read, culprit, refusal⟩ := inside failed
    refine ⟨op :: (used ++ read), culprit, refusal.within (op :: used) ?_ ?_⟩
    · intro tokens tree derived
      have linked : (Phrase.more chain left).Derived dialect (op :: used ++ tokens) tree := by
        intro first before
        have longer := Chain.derived_join before joins (operand.derived right rfl)
        have whole := derived _ longer
        rwa [List.append_assoc] at whole
      exact Phrase.viable_of_derived linked
    · intro other some walk
      rw [Token.next_append_of_ne_nil some [ahead] [other]] at operand
      exact .linked joins operand walk
  | @negationDisabled sign ahead minus disabled =>
    cases failed
    obtain ⟨more, tree, derived⟩ := viable_primary dialect
    refine ⟨[], sign, rfl, ⟨more, tree, Factor.primary derived⟩, .inr ⟨rfl, ?_⟩⟩
    intro other
    exact .negationDisabled minus disabled
  | @negationRefused sign used ahead _ enabled minus operand inside =>
    cases failed
    obtain ⟨read, culprit, refusal⟩ := inside rfl
    refine ⟨sign :: read, culprit, refusal.within [sign] ?_ ?_⟩
    · intro tokens tree derived
      exact Phrase.viable_of_derived (Factor.negation enabled minus derived)
    · intro other _ walk
      exact .negationRefused enabled minus walk
  | baseRefused unsigned base inside =>
    cases failed
    obtain ⟨read, culprit, refusal⟩ := inside rfl
    refine ⟨read, culprit, refusal.within [] ?_ ?_⟩
    · intro tokens tree derived
      exact Phrase.viable_of_derived (Factor.primary derived)
    · intro other some walk
      rw [Token.next_append_of_ne_nil some _ [other]] at unsigned
      exact .baseRefused unsigned walk
  | @exponentRefused used more op ahead tree _ unsigned base raises exponent _ inside =>
    cases failed
    obtain ⟨read, culprit, refusal⟩ := inside rfl
    have lifted : Refusal dialect (.level .factor) problem ((used ++ [op]) ++ more) ahead
        ((used ++ [op]) ++ read) culprit := by
      refine refusal.within (used ++ [op]) ?_ ?_
      · intro tokens power derived
        rw [List.append_assoc]
        exact Phrase.viable_of_derived (Factor.power (base.derived tree rfl) raises derived)
      · intro other _ walk
        rw [List.append_assoc]
        exact .exponentRefused unsigned base raises walk
    rw [List.append_assoc, List.singleton_append] at lifted
    exact ⟨_, culprit, lifted⟩
  | @malformed token ahead numeric meaningless =>
    cases failed
    refine ⟨[], token, rfl, viable_primary dialect, .inr ⟨rfl, ?_⟩⟩
    intro other
    exact .malformed numeric meaningless
  | @called token opening ahead used result named opens behind inside =>
    cases result with
    | ok call => cases failed
    | error found =>
      cases failed
      obtain ⟨read, culprit, refusal⟩ := inside rfl
      refine ⟨token :: opening :: read, culprit, refusal.within [token, opening] ?_ ?_⟩
      · rintro tokens tree ⟨within, closing, args, rfl, listed, closes, rfl⟩
        exact Phrase.viable_of_derived (Primary.call named opens listed closes)
      · intro other _ walk
        exact .called named opens walk
  | @groupRefused opening ahead used _ opens grouped inside =>
    cases failed
    obtain ⟨read, culprit, refusal⟩ := inside rfl
    refine ⟨opening :: read, culprit, refusal.within [opening] ?_ ?_⟩
    · intro tokens tree derived
      exact viable_group opens derived
    · intro other _ walk
      exact .groupRefused opens walk
  | @groupOpen opening ahead used tree opens grouped unclosed =>
    cases failed
    exact ⟨opening :: used, ahead, rfl, viable_group opens (grouped.derived tree rfl), .inl ⟨rfl, rfl⟩⟩
  | @noPrimary ahead noNumber noName noGroup =>
    cases failed
    exact ⟨[], ahead, rfl, viable_primary dialect, .inl ⟨rfl, rfl⟩⟩
  | @argumentsRefused callee used ahead _ some listed inside =>
    cases failed
    obtain ⟨read, culprit, refusal⟩ := inside rfl
    refine ⟨read, culprit, refusal.within [] ?_ ?_⟩
    · intro tokens args derived
      exact viable_call dialect callee derived
    · intro other nonempty walk
      rw [Token.next_append_of_ne_nil nonempty _ [other]] at some
      exact .argumentsRefused some walk
  | @argumentsOpen callee used ahead args some listed unclosed =>
    cases failed
    exact ⟨used, ahead, rfl, viable_call dialect callee (listed.derived args rfl), .inl ⟨rfl, rfl⟩⟩
  | argumentRefused first inside =>
    cases failed
    obtain ⟨read, culprit, refusal⟩ := inside rfl
    refine ⟨read, culprit, refusal.within [] ?_ ?_⟩
    · intro tokens tree derived
      exact Phrase.viable_of_derived (ArgumentList.last derived)
    · intro other _ walk
      exact .argumentRefused walk
  | @moreArguments used more comma ahead tree result first separates behind _ inside =>
    cases result with
    | ok args => cases failed
    | error found =>
      cases failed
      obtain ⟨read, culprit, refusal⟩ := inside rfl
      have lifted : Refusal dialect .arguments problem ((used ++ [comma]) ++ more) ahead
          ((used ++ [comma]) ++ read) culprit := by
        refine refusal.within (used ++ [comma]) ?_ ?_
        · intro tokens args derived
          rw [List.append_assoc]
          exact Phrase.viable_of_derived
            (ArgumentList.more (first.derived tree rfl) separates derived)
        · intro other _ walk
          rw [List.append_assoc]
          exact .moreArguments first separates walk
      rw [List.append_assoc, List.singleton_append] at lifted
      exact ⟨_, culprit, lifted⟩
  | _ => cases failed

/-- A phrase before a semicolon that is refused is refused at a token, which may be one
that stands in place of the semicolon. -/
theorem Terminated.exists_refusal {dialect : Dialect} {phrase : Phrase} {start : Position}
    {build : Span → phrase.Tree → Stmt} {used : List Token} {ahead : Token} {problem : Diagnostic}
    (walked : Terminated dialect phrase start build used ahead (.error problem)) :
    ∃ read culprit, problem.span = culprit.span ∧ phrase.Viable dialect read ∧
      StopsAt (fun used ahead => Terminated dialect phrase start build used ahead (.error problem))
        used ahead read culprit := by
  cases walked with
  | refused walk =>
    obtain ⟨read, culprit, place, viable, stops⟩ := walk.exists_refusal problem rfl
    refine ⟨read, culprit, place, viable, stops.behind [] ?_⟩
    intro other _ walk
    exact .refused walk
  | unended walk goesOn =>
    exact ⟨used, ahead, rfl, Phrase.viable_of_derived (walk.derived _ rfl), .inl ⟨rfl, rfl⟩⟩

/-- A statement that is refused is refused at a token, and the tokens read before that
can be completed to a statement. -/
theorem StatementWalk.exists_refusal {dialect : Dialect} {used : List Token} {ahead : Token}
    {problem : Diagnostic} (walk : StatementWalk dialect used ahead (.error problem)) :
    ∃ read culprit, problem.span = culprit.span ∧
      (∃ more stmt, Statement dialect (read ++ more) stmt) ∧
      StopsAt (fun used ahead => StatementWalk dialect used ahead (.error problem))
        used ahead read culprit := by
  let opening := Token.ofKind .leftParen
  let closing := Token.ofKind .rightParen
  let ending := Token.ofKind .semicolon
  cases walk with
  | @print word _ used _ prints keyword behind =>
    obtain ⟨read, culprit, place, ⟨more, value, derived⟩, stops⟩ := behind.exists_refusal
    have completed : Statement dialect (word :: (read ++ more ++ [ending])) _ :=
      .print keyword prints derived rfl
    rw [List.append_assoc] at completed
    refine ⟨word :: read, culprit, place, ⟨_, _, completed⟩, stops.behind [word] ?_⟩
    intro other _ walk
    exact .print prints keyword walk
  | @assign name sign _ used _ named assigns behind =>
    obtain ⟨read, culprit, place, ⟨more, value, derived⟩, stops⟩ := behind.exists_refusal
    have completed : Statement dialect (name :: sign :: (read ++ more ++ [ending])) _ :=
      .assign named assigns derived rfl
    rw [List.append_assoc] at completed
    refine ⟨name :: sign :: read, culprit, place, ⟨_, _, completed⟩, stops.behind [name, sign] ?_⟩
    intro other _ walk
    exact .assign named assigns walk
  | @call name opening _ used _ named opens behind =>
    obtain ⟨read, culprit, place, ⟨more, call, derived⟩, stops⟩ := behind.exists_refusal
    obtain ⟨within, closing, args, split, listed, closes, rfl⟩ := derived
    have completed : Statement dialect (name :: opening :: (within ++ [closing] ++ [ending])) _ :=
      .call named opens listed closes rfl
    rw [← split, List.append_assoc] at completed
    refine ⟨name :: opening :: read, culprit, place, ⟨_, _, completed⟩,
      stops.behind [name, opening] ?_⟩
    intro other _ walk
    exact .call named opens walk
  | @neither name ahead named noAssign noCall =>
    have completed : Statement dialect (name :: opening :: ([] ++ [closing] ++ [ending])) _ :=
      .call named rfl .none rfl rfl
    exact ⟨[name], ahead, rfl, ⟨_, _, completed⟩, .inl ⟨rfl, rfl⟩⟩
  | @noStatement ahead noName noPrint =>
    have completed : Statement dialect
        (Token.ofKind .name :: opening :: ([] ++ [closing] ++ [ending])) _ :=
      .call (.inl rfl) rfl .none rfl rfl
    exact ⟨[], ahead, rfl, ⟨_, _, completed⟩, .inl ⟨rfl, rfl⟩⟩

/-- No statement stands at the front of tokens that are refused.

Proof: a statement is read whole whatever stands behind it, so reading the tokens
would give both a tree and a diagnostic. -/
theorem not_statement_of_stopsAt {dialect : Dialect} {used read : List Token}
    {ahead culprit : Token} {problem : Diagnostic}
    (walk : StatementWalk dialect used ahead (.error problem))
    (stops : StopsAt (fun used ahead => StatementWalk dialect used ahead (.error problem))
      used ahead read culprit)
    (more : List Token) {front back : List Token} (split : read ++ culprit :: more = front ++ back)
    (stmt : Stmt) : ¬ Statement dialect front stmt := by
  intro derived
  have going := going_of_statement derived back
  have reads := (derived.walk (Token.next back)).statements_eq rfl going
  have refuses : ∃ others, statements dialect (front ++ back) = .error problem :: others := by
    rw [← split] at going ⊢
    rcases stops with ⟨rfl, rfl⟩ | ⟨rfl, anyway⟩
    · exact ⟨_, walk.statements_eq rfl going⟩
    · rw [← List.singleton_append, ← List.append_assoc] at going ⊢
      exact ⟨_, (anyway (Token.next more)).statements_eq rfl going⟩
  obtain ⟨others, refused⟩ := refuses
  rw [reads] at refused
  cases refused

/-- A diagnostic is about the earliest token that can be at fault. Its statement starts
where the tokens do or behind a semicolon; the tokens read of that can be completed, no
statement goes on with the token at fault, and at the end of the input the statement is
not complete. -/
structure Earliest (dialect : Dialect) (tokens : List Token) (diagnostic : Diagnostic)
    (front read : List Token) (culprit : Token) (back : List Token) : Prop where
  split : tokens = front ++ (read ++ culprit :: back)
  start : ∀ last ∈ front.getLast?, last.kind = .semicolon
  within : ∀ token ∈ read, token.kind ≠ .semicolon
  place : diagnostic.span = culprit.span
  viable : ∃ more stmt, Statement dialect (read ++ more) stmt
  dead : ∀ more stmt, ¬ Statement dialect (read ++ culprit :: more) stmt
  incomplete : ∀ stmt, ¬ Statement dialect read stmt

/-- Behind complete statements, the same diagnostic is about the same token. Only the front grows.
It still ends with a semicolon, and what is viable, dead or incomplete is so of the tokens read in
the statement. -/
theorem Earliest.behind {dialect : Dialect} {tokens front read back : List Token}
    {diagnostic : Diagnostic} {culprit : Token}
    (earliest : Earliest dialect tokens diagnostic front read culprit back) {before : List Token}
    (complete : ∀ last ∈ before.getLast?, last.kind = .semicolon) :
    Earliest dialect (before ++ tokens) diagnostic (before ++ front) read culprit back := by
  obtain ⟨split, start, within, place, viable, dead, incomplete⟩ := earliest
  refine ⟨?_, ?_, within, place, viable, dead, incomplete⟩
  · rw [split, List.append_assoc]
  · intro last atEnd
    rw [List.getLast?_append] at atEnd
    cases ends : front.getLast? with
    | some token =>
      rw [ends] at atEnd
      exact start last (ends.trans atEnd)
    | none =>
      rw [ends] at atEnd
      exact complete last atEnd

/-- A refused statement is refused at the earliest token, before the end of the input. The walk's
refusal names the tokens read and the culprit. No statement goes on with the culprit, and none
ends before it. -/
theorem StatementWalk.exists_earliest {dialect : Dialect} {used rest : List Token}
    {problem : Diagnostic}
    (walk : StatementWalk dialect used (Token.next rest) (.error problem)) (more : rest ≠ []) :
    ∃ read culprit back, Earliest dialect (used ++ rest) problem [] read culprit back := by
  obtain ⟨read, culprit, place, viable, stops⟩ := walk.exists_refusal
  have inside := walk.confined
  have dead : ∀ more stmt, ¬ Statement dialect (read ++ culprit :: more) stmt := by
    intro more stmt
    exact not_statement_of_stopsAt walk stops more (List.append_nil _).symm stmt
  have incomplete : ∀ stmt, ¬ Statement dialect read stmt := by
    intro stmt
    exact not_statement_of_stopsAt walk stops [] rfl stmt
  have found : ∃ back, used ++ rest = read ++ culprit :: back ∧ read ⊆ used := by
    rcases stops with ⟨rfl, seen⟩ | ⟨rfl, -⟩
    · obtain ⟨first, back, rfl⟩ := List.exists_cons_of_ne_nil more
      exact ⟨back, by rw [← seen, Token.next_cons], List.Subset.refl used⟩
    · exact ⟨rest, by rw [List.append_assoc, List.singleton_append], List.subset_append_left _ _⟩
  obtain ⟨back, split, part⟩ := found
  refine ⟨read, culprit, back, split, ?_, ?_, place, viable, dead, incomplete⟩
  · intro last atEnd
    cases atEnd
  · intro token member
    exact (inside token (part member)).1

/-- Recovery drops tokens through a semicolon, or all up to the end of the input.

Proof: induction on the tokens. Recovery stops before the token that ends the input, steps over a
semicolon and stops behind it, and drops any other token. -/
theorem exists_dropped (tokens : List Token) :
    ∃ dropped, tokens = dropped ++ recover tokens ∧
      (Token.Closed dropped ∨
        (∀ token ∈ dropped, token.Inside) ∧ (Token.next (recover tokens)).kind = .endOfInput) := by
  induction tokens with
  | nil => exact ⟨[], rfl, .inr ⟨List.forall_mem_nil _, rfl⟩⟩
  | cons first rest shorter =>
    by_cases ends : first.kind = .endOfInput
    · rw [recover, if_pos ends]
      exact ⟨[], rfl, .inr ⟨List.forall_mem_nil _, ends⟩⟩
    by_cases semicolon : first.kind = .semicolon
    · rw [recover, if_neg ends, if_pos semicolon]
      exact ⟨[first], rfl, .inl ⟨[], first, rfl, List.forall_mem_nil _, semicolon⟩⟩
    · rw [recover, if_neg ends, if_neg semicolon]
      obtain ⟨dropped, split, stops⟩ := shorter
      have here : first.Inside := ⟨semicolon, ends⟩
      refine ⟨first :: dropped, congrArg _ split, ?_⟩
      rcases stops with ⟨within, ending, rfl, inside, kind⟩ | ⟨inside, atEnd⟩
      · exact .inl ⟨first :: within, ending, rfl, List.forall_mem_cons.mpr ⟨here, inside⟩, kind⟩
      · exact .inr ⟨List.forall_mem_cons.mpr ⟨here, inside⟩, atEnd⟩

/-- Every diagnostic about the statements of tokens that end the input is about the
earliest token that can be at fault.

Proof: one statement after another. A statement that is read ends with its semicolon,
and a refused one is left behind through a semicolon, unless the input ends before
that; then there are no statements behind it. -/
theorem exists_earliest (dialect : Dialect) {tokens : List Token}
    (ends : ∃ token ∈ tokens, token.kind = .endOfInput) {diagnostic : Diagnostic}
    (reported : diagnostic ∈ diagnostics (statements dialect tokens)) :
    ∃ front read culprit back,
      Earliest dialect tokens diagnostic front read culprit back := by
  induction tokens using statements_induction dialect with
  | ended tokens atEnd =>
    rw [statements_end dialect atEnd] at reported
    cases reported
  | statement used rest result walk going behind =>
    obtain ⟨more, onward⟩ := walk.ends_leftBehind ends
    rw [walk.statements_eq rfl going] at reported
    cases result with
    | ok stmt =>
      obtain ⟨front, read, culprit, back, earliest⟩ := behind onward reported
      obtain ⟨within, ending, rfl, -, semicolon⟩ := walk.confined
      refine ⟨_, read, culprit, back, earliest.behind ?_⟩
      intro last atEnd
      rw [List.getLast?_concat] at atEnd
      cases atEnd
      exact semicolon
    | error problem =>
      rcases List.mem_cons.mp reported with rfl | later
      · obtain ⟨read, culprit, back, earliest⟩ := walk.exists_earliest more
        exact ⟨[], read, culprit, back, earliest⟩
      · obtain ⟨front, read, culprit, back, earliest⟩ := behind onward later
        obtain ⟨dropped, split, ⟨others, last, rfl, -, semicolon⟩ | ⟨-, atEnd⟩⟩ :=
          exists_dropped rest
        · rw [split, ← List.append_assoc]
          refine ⟨_, read, culprit, back, earliest.behind ?_⟩
          intro token atEnd
          rw [← List.append_assoc, List.getLast?_concat] at atEnd
          cases atEnd
          exact semicolon
        · rw [leftBehind, statements_end dialect atEnd] at later
          cases later

end Reading

/-- The last token of a text ends the input. Reading therefore never runs out of the tokens of a
text. -/
theorem Token.exists_endOfInput (text : Text) :
    ∃ token ∈ ofText text, token.kind = .endOfInput := by
  obtain ⟨words, ending, -, ends, tokens⟩ := exists_ending text
  exact ⟨ending, tokens ▸ List.mem_append_right words List.mem_cons_self, ends⟩

namespace Program

/-- Syntax errors are reported at the earliest possible token. Every diagnostic about the
tokens of a text, other than that there are none, is about a token such that those before
it, from the start of its statement, can be completed to a statement, but not with that
token behind them. -/
theorem reported_earliest (dialect : Dialect) (text : Text) (diagnostic : Diagnostic)
    (reported : diagnostic ∈ (ofTokens dialect (Token.ofText text)).2)
    (written : diagnostic.code ≠ Problem.emptyProgram.code) :
    ∃ front read culprit back,
      Reading.Earliest dialect (Token.ofText text) diagnostic front read culprit back := by
  rw [ofTokens] at reported
  split at reported
  · obtain rfl := List.mem_singleton.mp reported
    exact absurd rfl written
  · exact Reading.exists_earliest dialect (Token.exists_endOfInput text) reported

/-- A sign that the dialect has switched off, behind a power, is the token at which its
statement stops being one. -/
theorem reported_earliest_sign :
    ∃ (text : Text) (diagnostic : Diagnostic), text = Text.ofString "x=y**-z;" ∧
      diagnostic = Problem.negationDisabled.diagnostic ⟨⟨5, 1, 6⟩, ⟨6, 1, 7⟩⟩ ∧
      diagnostic ∈ (ofTokens ⟨true, false, .keyword⟩ (Token.ofText text)).2 ∧
      diagnostic.code ≠ Problem.emptyProgram.code ∧
      ∃ front read culprit back, Reading.Earliest ⟨true, false, .keyword⟩ (Token.ofText text)
        diagnostic front read culprit back := by
  have tokens : Token.ofText (Text.ofString "x=y**-z;") =
      [⟨.name, [120], ⟨⟨0, 1, 1⟩, ⟨1, 1, 2⟩⟩⟩, ⟨.assign, [61], ⟨⟨1, 1, 2⟩, ⟨2, 1, 3⟩⟩⟩,
        ⟨.name, [121], ⟨⟨2, 1, 3⟩, ⟨3, 1, 4⟩⟩⟩, ⟨.power, [42, 42], ⟨⟨3, 1, 4⟩, ⟨5, 1, 6⟩⟩⟩,
        ⟨.minus, [45], ⟨⟨5, 1, 6⟩, ⟨6, 1, 7⟩⟩⟩, ⟨.name, [122], ⟨⟨6, 1, 7⟩, ⟨7, 1, 8⟩⟩⟩,
        ⟨.semicolon, [59], ⟨⟨7, 1, 8⟩, ⟨8, 1, 9⟩⟩⟩,
        ⟨.endOfInput, [], ⟨⟨8, 1, 9⟩, ⟨8, 1, 9⟩⟩⟩] := by
    decide +kernel
  have only : (ofTokens ⟨true, false, .keyword⟩ (Token.ofText (Text.ofString "x=y**-z;"))).2 =
      [Problem.negationDisabled.diagnostic ⟨⟨5, 1, 6⟩, ⟨6, 1, 7⟩⟩] := by
    rw [tokens]
    change Reading.diagnostics _ = _
    cbv
  have reported := List.mem_singleton_self (Problem.negationDisabled.diagnostic
    ⟨⟨5, 1, 6⟩, ⟨6, 1, 7⟩⟩)
  rw [← only] at reported
  have written : (Problem.negationDisabled.diagnostic ⟨⟨5, 1, 6⟩, ⟨6, 1, 7⟩⟩).code ≠
      Problem.emptyProgram.code := by
    decide +kernel
  exact ⟨_, _, rfl, rfl, reported, written, reported_earliest _ _ _ reported written⟩

end Program

end Astro
