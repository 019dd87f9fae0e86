import Astro.Proofs.Anchors
import Astro.Proofs.FailedRuns
import Astro.Proofs.Offenders
import Astro.Proofs.Refusals

/-!
# Where errors are reported

Every diagnostic about a text has a span that lies in the text, whether it is about a
character, about the program or about running that. What goes wrong when a program runs is
reported inside the statement that fails. A name that is to blame is what stands under the
span; a wrong number of arguments is reported from the first token of the arguments to the
last one, or at the closing parenthesis when there are none.
-/

namespace Astro

/-- The span of the tokens between the parentheses of a call: from the first of them to
the last, or nothing before the closing parenthesis. -/
def Token.stretch (closing : Token) : List Token → Span
  | [] => ⟨closing.span.start, closing.span.start⟩
  | first :: rest => ⟨first.span.start, ((first :: rest).getLast (List.cons_ne_nil _ _)).span.stop⟩

/-- A span lies within another one. It starts no earlier and stops no later. -/
def Span.Within (inner outer : Span) : Prop :=
  outer.start.offset ≤ inner.start.offset ∧ inner.stop.offset ≤ outer.stop.offset

/-- The place behind some tokens is behind the last of them. -/
theorem Token.lastStop_eq (before : Position) {tokens : List Token} (some : tokens ≠ []) :
    lastStop before tokens = (tokens.getLast some).span.stop := by
  have split := List.dropLast_append_getLast some
  rw [← congrArg (lastStop before) split, lastStop_append]
  rfl

/-- The span of the arguments of a call is that of the tokens that spell them. -/
theorem Call.argsSpan_between (callee : Name) (within : List Token) (closing : Token)
    (args : List Expr) :
    (Call.between callee within closing args).argsSpan = Token.stretch closing within := by
  cases within with
  | nil => rfl
  | cons first rest =>
    have behind := Token.lastStop_eq first.span.start (List.cons_ne_nil first rest)
    exact congrArg (Span.mk first.span.start) behind

namespace Token

variable {text : Text} {token : Token}

/-- Tokens in a row start no earlier than the first of them. -/
theorem first_start_le {first : Token} {rest : List Token}
    (written : first :: rest <:+: ofText text) (member : token ∈ first :: rest) :
    first.span.start.offset ≤ token.span.start.offset := by
  have inOrder := (inOrder_place .start text.glyphs).sublist written.sublist
  rcases List.mem_cons.mp member with rfl | later
  · exact Int.le_refl _
  · have forward := (liesIn_of_mem (written.subset List.mem_cons_self)).ordered
    exact Int.le_trans forward ((List.pairwise_cons.mp inOrder).1 token later)

/-- Tokens in a row end no later than the last of them. -/
theorem stop_le_last {front : List Token} {last : Token}
    (written : front ++ [last] <:+: ofText text) (member : token ∈ front ++ [last]) :
    token.span.stop.offset ≤ last.span.stop.offset := by
  have inOrder := (inOrder_place .start text.glyphs).sublist written.sublist
  rcases List.mem_append.mp member with earlier | here
  · have before := (List.pairwise_append.mp inOrder).2.2 token earlier last List.mem_cons_self
    have atEnd : last ∈ front ++ [last] := List.mem_append_right front List.mem_cons_self
    exact Int.le_trans before (liesIn_of_mem (written.subset atEnd)).ordered
  · rw [List.mem_singleton.mp here]

/-- The span of tokens in a row lies in their text. It reaches from the first of them to the last
one. Without any it is empty, at the token that closes them. -/
theorem liesIn_stretch {within : List Token} {closing : Token}
    (written : within ++ [closing] <:+: ofText text) : (stretch closing within).LiesIn text := by
  cases within with
  | nil =>
    have closes := liesIn_of_mem (written.subset List.mem_cons_self)
    exact ⟨closes.start, closes.start, Int.le_refl _⟩
  | cons first rest =>
    have inside := (List.prefix_append (first :: rest) [closing]).isInfix.trans written
    have atEnd := List.getLast_mem (List.cons_ne_nil first rest)
    have starts := liesIn_of_mem (inside.subset List.mem_cons_self)
    have stops := liesIn_of_mem (inside.subset atEnd)
    constructor
    · exact starts.start
    · exact stops.stop
    · exact Int.le_trans (first_start_le inside atEnd) stops.ordered

/-- The span of tokens in a row lies within a span within which each of them lies. -/
theorem within_stretch {within : List Token} {closing : Token} {outer : Span}
    (written : within ++ [closing] <:+: ofText text)
    (each : ∀ token ∈ within ++ [closing], token.span.Within outer) :
    (stretch closing within).Within outer := by
  cases within with
  | nil =>
    have closes := each closing List.mem_cons_self
    have forward := (liesIn_of_mem (written.subset List.mem_cons_self)).ordered
    exact ⟨closes.1, Int.le_trans forward closes.2⟩
  | cons first rest =>
    have atEnd := List.getLast_mem (List.cons_ne_nil first rest)
    exact ⟨(each first List.mem_cons_self).1, (each _ (List.mem_append_left _ atEnd)).2⟩

end Token

namespace Grammar

variable {dialect : Dialect} {text : Text} {tokens : List Token}

/-- The span of a statement reaches from its first token to its last. -/
theorem Statement.exists_ends {stmt : Stmt} (derived : Statement dialect tokens stmt) :
    ∃ first rest front last, tokens = first :: rest ∧ tokens = front ++ [last] ∧
      stmt.span = ⟨first.span.start, last.span.stop⟩ := by
  cases derived with
  | @assign name sign ending within value =>
    exact ⟨name, _, name :: sign :: within, ending, rfl, rfl, rfl⟩
  | @call name opening closing ending within args =>
    exact ⟨name, _, name :: opening :: (within ++ [closing]), ending, rfl, rfl, rfl⟩
  | @print word ending within value =>
    exact ⟨word, _, word :: within, ending, rfl, rfl, rfl⟩

/-- Each token of a statement lies within the span of the statement. -/
theorem Statement.within_span {stmt : Stmt} (derived : Statement dialect tokens stmt)
    (written : tokens <:+: Token.ofText text) :
    ∀ token ∈ tokens, token.span.Within stmt.span := by
  intro token member
  obtain ⟨first, rest, front, last, start, stop, span⟩ := derived.exists_ends
  rw [span]
  constructor
  · rw [start] at written member
    exact Token.first_start_le written member
  · rw [stop] at written member
    exact Token.stop_le_last written member

/-- What stands under the span at which an offender is reported. A name stands there
itself, and is one of the names of the text. Of a call it is what the tokens between the
parentheses spell as its arguments. -/
def Pointed (dialect : Dialect) (text : Text) : Offender → Span → Prop
  | .name occurrence, span => text.under span = occurrence.text ∧
      ∃ token ∈ Token.ofText text, IsName dialect token ∧ token.span = span
  | .call called, span => ∃ name opening within closing,
      name :: opening :: (within ++ [closing]) <:+: Token.ofText text ∧
      called.callee = Name.ofToken name ∧ opening.kind = .leftParen ∧
      Arguments dialect within called.args ∧ closing.kind = .rightParen ∧
      span = Token.stretch closing within

/-- A name is a legal token. -/
theorem IsName.legal {token : Token} (named : IsName dialect token) : token.kind ≠ .illegal := by
  rcases named with kind | ⟨kind, _⟩
  · simp [kind]
  · simp [kind]

section Offenders

variable {offender : Offender}

/-- An offender that comes from tokens of a text is what its span points at. -/
theorem StandsAmong.pointed (stands : StandsAmong dialect tokens offender)
    (written : tokens <:+: Token.ofText text) : Pointed dialect text offender offender.span := by
  cases offender with
  | name occurrence =>
    obtain ⟨token, member, named, rfl⟩ := stands
    have among := written.subset member
    exact ⟨Token.under_of_mem among named.legal, token, among, named, rfl⟩
  | call called =>
    obtain ⟨name, opening, within, closing, among, opens, listed, closes, same⟩ := stands
    refine ⟨name, opening, within, closing, among.trans written, ?_, opens, listed, closes, ?_⟩
    · rw [same]
      rfl
    · rw [Offender.span, same, Call.argsSpan_between]

/-- An offender that comes from tokens of a text is reported in that text. -/
theorem StandsAmong.liesIn (stands : StandsAmong dialect tokens offender)
    (written : tokens <:+: Token.ofText text) : offender.span.LiesIn text := by
  cases offender with
  | name occurrence =>
    obtain ⟨token, member, -, rfl⟩ := stands
    exact Token.liesIn_of_mem (written.subset member)
  | call called =>
    obtain ⟨name, opening, within, closing, among, -, -, -, same⟩ := stands
    rw [Offender.span, same, Call.argsSpan_between]
    refine Token.liesIn_stretch (List.IsInfix.trans ?_ (among.trans written))
    exact ⟨[name, opening], [], List.append_nil _⟩

/-- An offender that comes from the tokens of a statement is reported within that. A name is one
of the statement's tokens, and a call is reported at its arguments, which stand between two of
them. -/
theorem StandsAmong.within_span (stands : StandsAmong dialect tokens offender) {stmt : Stmt}
    (derived : Statement dialect tokens stmt) (written : tokens <:+: Token.ofText text) :
    offender.span.Within stmt.span := by
  have each := derived.within_span written
  cases offender with
  | name occurrence =>
    obtain ⟨token, member, -, rfl⟩ := stands
    exact each token member
  | call called =>
    obtain ⟨name, opening, within, closing, among, -, -, -, same⟩ := stands
    have inside : within ++ [closing] <:+: tokens :=
      List.IsInfix.trans ⟨[name, opening], [], List.append_nil _⟩ among
    rw [Offender.span, same, Call.argsSpan_between]
    refine Token.within_stretch (inside.trans written) ?_
    intro token member
    exact each token (inside.subset member)

end Offenders

end Grammar

/-- The first of some tokens is one of them. Without any, one would be made up. -/
theorem Token.next_mem {tokens : List Token} (some : tokens ≠ []) : next tokens ∈ tokens := by
  cases tokens with
  | nil => exact absurd rfl some
  | cons first rest => exact List.mem_cons_self

/-- The diagnostics about a text lie in it.

Proof: a diagnostic is placed at a token of the text: one that a character does not start, the
first one of an empty program, or the culprit of a refused statement. -/
theorem Program.liesIn_of_mem {dialect : Dialect} {text : Text} {diagnostic : Diagnostic}
    (reported : diagnostic ∈ (ofText dialect text).2) : diagnostic.span.LiesIn text := by
  rw [ofText] at reported
  cases legal : Token.problems (Token.ofText text) with
  | cons problem others =>
    rw [legal] at reported
    have member : diagnostic ∈ Token.problems (Token.ofText text) := legal ▸ reported
    rw [Token.problems_eq] at member
    obtain ⟨token, illegal, rfl⟩ := List.mem_map.mp member
    exact Token.liesIn_of_mem (List.mem_of_mem_filter illegal)
  | nil =>
    rw [legal] at reported
    change diagnostic ∈ (ofTokens dialect (Token.ofText text)).2 at reported
    rw [ofTokens] at reported
    split at reported
    · obtain rfl := List.mem_singleton.mp reported
      obtain ⟨token, member, -⟩ := Token.exists_endOfInput text
      exact Token.liesIn_of_mem (Token.next_mem (List.ne_nil_of_mem member))
    · obtain ⟨front, read, culprit, back, earliest⟩ :=
        Reading.exists_earliest dialect (Token.exists_endOfInput text) reported
      rw [earliest.place]
      refine Token.liesIn_of_mem ?_
      rw [earliest.split]
      simp

/-- Where a diagnostic about running a statement points: inside the text and inside the
statement, at what is to blame. -/
structure Diagnostic.Points (diagnostic : Diagnostic) (dialect : Dialect) (text : Text)
    (table : Table) (stmt : Stmt) : Prop where
  placed : diagnostic.span.LiesIn text
  inside : diagnostic.span.Within stmt.span
  blames : ∃ cause offender, stmt.Offends table cause offender ∧
    diagnostic = (cause.fault offender.span).diagnostic ∧
    Grammar.Pointed dialect text offender diagnostic.span

namespace Session

/-- A text that is refused is refused with one of its diagnostics. -/
theorem exists_diagnostic {dialect : Dialect} {source : Text} {failure : Failure}
    (refused : parse dialect source = .error failure) :
    ∃ diagnostic ∈ (Program.ofText dialect source).2, failure = .notAProgram diagnostic := by
  cases wrong : (Program.ofText dialect source).2 with
  | nil =>
    obtain ⟨program, parsed⟩ := exists_parse wrong
    rw [refused] at parsed
    cases parsed
  | cons first others =>
    rw [parse_of_diagnostics wrong] at refused
    cases refused
    exact ⟨first, List.mem_cons_self, rfl⟩

/-- A check that fails when a statement of a program runs is reported where it should. -/
theorem points_of_step {σ : Type} [Output σ] {dialect : Dialect} {source : Text}
    {program : Program} {stmt : Stmt} {machine after : Machine σ} {failure : Failure}
    {diagnostic : Diagnostic}
    (parsed : parse dialect source = .ok program) (member : stmt ∈ program.body)
    (stepped : machine.step stmt = (after, some failure))
    (reported : failure.diagnostic? = some diagnostic) :
    diagnostic.Points dialect source machine.table stmt := by
  obtain ⟨part, written, derived⟩ := exists_statement parsed member
  rcases (Machine.stops_of_step stepped).failure_cases with checked | ⟨_, rfl⟩ | ⟨_, rfl⟩
  · obtain ⟨cause, offender, offends, stands, rfl⟩ := derived.blames checked
    cases reported
    constructor
    · exact stands.liesIn written
    · exact stands.within_span derived written
    · exact ⟨cause, offender, offends, rfl, stands.pointed written⟩
  · cases reported
  · cases reported

/-- Every reported error points at the right text. The diagnostics about a text lie in it.
When running a text fails, what is reported is one of these diagnostics, or it is about
the one statement of the program that failed: it lies in the text and within that
statement, and it points at the name or at the arguments that are to blame. -/
theorem exec_points {σ : Type} [Output σ] (session : Session σ) (source : Text) :
    (∀ diagnostic ∈ (Program.ofText session.dialect source).2, diagnostic.span.LiesIn source) ∧
    ∀ failure diagnostic, (session.exec source).2 = some failure →
      failure.diagnostic? = some diagnostic →
      failure = .notAProgram diagnostic ∧ diagnostic ∈ (Program.ofText session.dialect source).2 ∨
      ∃ program before stmt later reached,
        Program.ofText session.dialect source = (some program, []) ∧
        program.body = before ++ stmt :: later ∧
        session.machine.run before = (reached, none) ∧ (reached.step stmt).2 = some failure ∧
        diagnostic.Points session.dialect source reached.table stmt := by
  constructor
  · intro diagnostic member
    exact Program.liesIn_of_mem member
  · intro failure diagnostic failed reported
    cases parsed : parse session.dialect source with
    | error refusal =>
      obtain ⟨first, member, rfl⟩ := exists_diagnostic parsed
      rw [exec_of_refused parsed] at failed
      cases failed
      cases reported
      exact .inl ⟨rfl, member⟩
    | ok program =>
      rw [exec_of_parse parsed] at failed
      have ran : session.machine.run program.body =
          ((session.machine.run program.body).1, some failure) := Prod.ext rfl failed
      obtain ⟨before, stmt, later, reached, split, earlier, stepped⟩ := Machine.exists_failing ran
      have member : stmt ∈ program.body := by
        rw [split]
        exact List.mem_append_right before List.mem_cons_self
      refine .inr ⟨program, before, stmt, later, reached, parse_eq_ok_iff.mp parsed, split, earlier,
        congrArg Prod.snd stepped, ?_⟩
      exact points_of_step parsed member stepped reported

end Session

end Astro
