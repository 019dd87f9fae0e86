import Astro.Proofs.Refusals
import Mathlib.Data.List.Forall2

/-!
# Segments

The tokens before the end of the input are cut into segments behind each semicolon. A
statement is read from one segment, and a refused one is left behind with its segment.
So reading settles segment by segment, each as it would be settled standing alone
(`settled_segments`).

The end of the input is seen only from a segment that has no semicolon. Such a segment
is refused, and of the token that ends the input only the place matters: walks stay walks
when that token is replaced by one that looks alike.
-/

namespace Astro

namespace Token

/-- Tokens cut behind each semicolon. What stands behind the last one is a segment
without a semicolon, unless nothing does. -/
def segments : List Token → List (List Token)
  | [] => []
  | first :: rest =>
    if first.kind = .semicolon then [first] :: segments rest
    else
      match segments rest with
      | [] => [[first]]
      | segment :: others => (first :: segment) :: others

/-- The token that ends the input at a span. -/
def closing (span : Span) : Token := ⟨.endOfInput, [], span⟩

/-- A segment goes up to the end of the input. -/
def Unclosed (segment : List Token) : Prop := segment ≠ [] ∧ ∀ token ∈ segment, token.Inside

/-- A first segment that is closed is cut off, and the others are the segments of what is behind
it. -/
theorem segments_closed {segment : List Token} (closed : Closed segment) (rest : List Token) :
    segments (segment ++ rest) = segment :: segments rest := by
  obtain ⟨within, ending, rfl, inside, ends⟩ := closed
  induction within with
  | nil => simp [segments, ends]
  | cons first others shorter =>
    have behind := shorter fun token member => inside token (List.mem_cons_of_mem _ member)
    have going : first.kind ≠ .semicolon := (inside first List.mem_cons_self).1
    rw [List.cons_append, List.cons_append, segments, if_neg going, behind]

/-- Tokens without a semicolon are one segment, and nothing is cut off. -/
theorem segments_unclosed {segment : List Token} (unclosed : Unclosed segment) :
    segments segment = [segment] := by
  obtain ⟨some, inside⟩ := unclosed
  induction segment with
  | nil => exact absurd rfl some
  | cons first others shorter =>
    have going : first.kind ≠ .semicolon := (inside first List.mem_cons_self).1
    rw [segments, if_neg going]
    cases others with
    | nil => rfl
    | cons second others =>
      rw [shorter (List.cons_ne_nil _ _) fun token member =>
        inside token (List.mem_cons_of_mem _ member)]

/-- The segments put together are the tokens: none is lost, and none is doubled.

Proof: induction on the tokens. A semicolon is a segment of its own at first, and any token before
it is put to the front of the first segment of the rest. -/
theorem flatten_segments (tokens : List Token) : (segments tokens).flatten = tokens := by
  induction tokens with
  | nil => rfl
  | cons first rest others =>
    rw [segments]
    split
    · rw [List.flatten_cons, others, List.singleton_append]
    · cases cut : segments rest with
      | nil =>
        rw [cut] at others
        rw [← others]
        rfl
      | cons segment more =>
        rw [cut] at others
        rw [← others]
        rfl

/-- A segment with a semicolon does not go up to the end of the input. -/
theorem Unclosed.not_closed {segment : List Token} (unclosed : Unclosed segment) :
    ¬ Closed segment := by
  rintro ⟨within, ending, rfl, -, ends⟩
  exact (unclosed.2 ending (List.mem_append_right within List.mem_cons_self)).1 ends

/-- A closed segment does not end the input. It has ended with its semicolon. -/
theorem Closed.going {segment : List Token} (closed : Closed segment) :
    ∀ token ∈ segment, token.kind ≠ .endOfInput := by
  obtain ⟨within, ending, rfl, inside, ends⟩ := closed
  intro token member
  rcases List.mem_append.mp member with earlier | last
  · exact (inside token earlier).2
  · rw [List.mem_singleton.mp last, ends]
    decide

/-- Tokens inside a statement belong to the segment behind them. -/
theorem Closed.behind {within segment : List Token} (inside : ∀ token ∈ within, token.Inside)
    (closed : Closed segment) : Closed (within ++ segment) := by
  obtain ⟨others, ending, rfl, more, ends⟩ := closed
  refine ⟨within ++ others, ending, (List.append_assoc ..).symm, ?_, ends⟩
  exact List.forall_mem_append.mpr ⟨inside, more⟩

/-- A closed segment is not empty, since it has a semicolon. -/
theorem Closed.ne_nil {segment : List Token} (closed : Closed segment) : segment ≠ [] := by
  obtain ⟨within, ending, rfl, -, -⟩ := closed
  exact List.append_ne_nil_of_right_ne_nil within (List.cons_ne_nil ending [])

/-- Tokens that do not end the input have what ends it behind them, whatever that is. -/
theorem ending_append {tokens : List Token} (going : ∀ token ∈ tokens, token.kind ≠ .endOfInput)
    (rest : List Token) : ending (tokens ++ rest) = ending rest := by
  have none : tokens.find? (fun token => token.kind = .endOfInput) = none := by
    simpa [List.find?_eq_none] using going
  rw [ending, List.find?_append, none, Option.none_or, ending]

/-- At the end of the input stands the token that ends it. -/
theorem ending_of_ends {tokens : List Token} (ends : (next tokens).kind = .endOfInput) :
    ending tokens = next tokens := by
  cases tokens with
  | nil => rfl
  | cons first rest =>
    rw [ending, List.find?_cons_of_pos (by simpa using ends), next_cons, Option.getD_some]

/-- Two tokens are told apart by reading at most if they differ in kind or place, or if
they are words that are spelled differently. -/
structure Alike (first second : Token) : Prop where
  kind : first.kind = second.kind
  span : first.span = second.span
  lexeme : first.kind ≠ .endOfInput → first.lexeme = second.lexeme

namespace Alike

variable {first second : Token}

/-- A token is like itself. -/
theorem refl (token : Token) : Alike token token := ⟨rfl, rfl, fun _ => rfl⟩

/-- Only the place of a token that ends the input matters, so that the one that ends a segment can
stand for it. -/
theorem closing (ends : first.kind = .endOfInput) : Alike first (closing first.span) :=
  ⟨ends, rfl, fun going => absurd ends going⟩

/-- What is seen first of some tokens is alike when what follows them is. -/
theorem next (alike : Alike first second) (tokens : List Token) :
    Alike (Token.next (tokens ++ [first])) (Token.next (tokens ++ [second])) := by
  cases tokens with
  | nil => exact alike
  | cons token rest => exact refl token

/-- Tokens that are alike are described in the same words. -/
theorem describe (alike : Alike first second) : first.describe = second.describe := by
  unfold Token.describe
  rw [← alike.kind]
  by_cases ends : first.kind = .endOfInput
  · rw [if_pos ends, if_pos ends]
  · rw [if_neg ends, if_neg ends, alike.lexeme ends]

/-- Tokens that are alike are names in the same dialects. -/
theorem isName (alike : Alike first second) {dialect : Dialect} :
    Grammar.IsName dialect first ↔ Grammar.IsName dialect second := by
  rw [Grammar.IsName, Grammar.IsName, alike.kind]

/-- Tokens that are alike join the same chains. It depends on their kind alone. -/
theorem joins (alike : Alike first second) {dialect : Dialect} {chain : Reading.Chain} :
    chain.Joins dialect first ↔ chain.Joins dialect second := by
  cases chain with
  | sum => simp [Reading.Chain.Joins, Grammar.JoinsTerms, alike.kind]
  | product => simp [Reading.Chain.Joins, Grammar.JoinsFactors, alike.kind]

/-- A wanted token is missed alike: with the same words, at the same place. -/
theorem expected (alike : Alike first second) (wanted : Kind) :
    (Problem.expected wanted first).diagnostic first.span =
      (Problem.expected wanted second).diagnostic second.span := by
  simp only [Problem.diagnostic, Problem.code, Problem.message, Problem.hint, alike.describe,
    alike.span]

/-- An expression is missed alike: the advice about it repeats words only. -/
theorem expectedExpression (alike : Alike first second) :
    (Problem.expectedExpression first).diagnostic first.span =
      (Problem.expectedExpression second).diagnostic second.span := by
  have hint : (Problem.expectedExpression first).hint = (Problem.expectedExpression second).hint := by
    simp only [Problem.hint, Kind.isKeyword, decide_eq_true_eq, ← alike.kind]
    split
    · next word => rw [alike.lexeme (by simp [word])]
    · rfl
  simp only [Problem.diagnostic, Problem.code, Problem.message, hint, alike.describe, alike.span]

end Alike

end Token

namespace Reading

open Grammar Token

/-- A walk before a token is a walk before any token like it.

Proof: induction on the walk. The token ahead of a part is the one ahead of the whole, or
one that was used behind that part. -/
theorem Walk.alike {dialect : Dialect} {phrase : Phrase} {used : List Token} {ahead other : Token}
    {result : Except Diagnostic phrase.Tree} (walk : Walk dialect phrase used ahead result)
    (alike : Alike ahead other) : Walk dialect phrase used other result := by
  induction walk generalizing other with
  | operandRefused operand inside => exact .operandRefused (inside alike)
  | chained operand behind first second => exact .chained (first (alike.next _)) (second alike)
  | chainEnds ends => exact .chainEnds fun joins => ends (alike.joins.mpr joins)
  | linkRefused joins operand inside => exact .linkRefused joins (inside alike)
  | linked joins operand behind first second =>
    exact .linked joins (first (alike.next _)) (second alike)
  | negationDisabled minus disabled => exact .negationDisabled minus disabled
  | negationRefused enabled minus operand inside =>
    exact .negationRefused enabled minus (inside alike)
  | negated enabled minus operand inside => exact .negated enabled minus (inside alike)
  | baseRefused unsigned base inside =>
    rw [(alike.next _).kind] at unsigned
    exact .baseRefused unsigned (inside alike)
  | unraised unsigned base ends inside =>
    rw [(alike.next _).kind] at unsigned
    rw [alike.kind] at ends
    exact .unraised unsigned (inside alike) ends
  | exponentRefused unsigned base raises exponent _ inside =>
    exact .exponentRefused unsigned base raises (inside alike)
  | raised unsigned base raises exponent _ inside =>
    exact .raised unsigned base raises (inside alike)
  | malformed numeric meaningless => exact .malformed numeric meaningless
  | number numeric denotes => exact .number numeric denotes
  | name named ends =>
    rw [alike.kind] at ends
    exact .name named ends
  | called named opens behind inside => exact .called named opens (inside alike)
  | groupRefused opens grouped inside => exact .groupRefused opens (inside alike)
  | groupOpen opens grouped unclosed inside =>
    rw [alike.kind] at unclosed
    rw [alike.expected]
    exact .groupOpen opens (inside alike) unclosed
  | grouped opens grouped closes inside => exact .grouped opens grouped closes
  | noPrimary noNumber noName noGroup =>
    rw [alike.kind] at noNumber noGroup
    rw [alike.expectedExpression]
    exact .noPrimary noNumber (fun named => noName (alike.isName.mpr named)) noGroup
  | noArguments closes => exact .noArguments closes
  | argumentsRefused some listed inside =>
    rw [(alike.next _).kind] at some
    exact .argumentsRefused some (inside alike)
  | argumentsOpen some listed unclosed inside =>
    rw [(alike.next _).kind] at some
    rw [alike.kind] at unclosed
    rw [alike.expected]
    exact .argumentsOpen some (inside alike) unclosed
  | argumentsClosed some listed closes inside => exact .argumentsClosed some listed closes
  | argumentRefused first inside => exact .argumentRefused (inside alike)
  | lastArgument first ends inside =>
    rw [alike.kind] at ends
    exact .lastArgument (inside alike) ends
  | moreArguments first separates behind _ inside =>
    exact .moreArguments first separates (inside alike)

/-- A phrase with a semicolon behind it is walked over alike before tokens that are alike. -/
theorem Terminated.alike {dialect : Dialect} {phrase : Phrase} {start : Position}
    {build : Span → phrase.Tree → Stmt} {used : List Token} {ahead other : Token}
    {result : Except Diagnostic Stmt}
    (walked : Terminated dialect phrase start build used ahead result)
    (alike : Alike ahead other) : Terminated dialect phrase start build used other result := by
  cases walked with
  | refused walk => exact .refused (walk.alike alike)
  | unended walk goesOn =>
    rw [alike.kind] at goesOn
    rw [alike.expected]
    exact .unended (walk.alike alike) goesOn
  | ended walk ends => exact .ended walk ends

/-- A walk over a statement before a token is one before any token like it. It looks at the token
ahead only to see whether it goes on, and to complain about it in the token's words and at its
place. -/
theorem StatementWalk.alike {dialect : Dialect} {used : List Token} {ahead other : Token}
    {result : Except Diagnostic Stmt} (walk : StatementWalk dialect used ahead result)
    (alike : Alike ahead other) : StatementWalk dialect used other result := by
  cases walk with
  | print prints keyword behind => exact .print prints keyword (behind.alike alike)
  | assign named assigns behind => exact .assign named assigns (behind.alike alike)
  | call named opens behind => exact .call named opens (behind.alike alike)
  | @neither name _ named noAssign noCall =>
    rw [alike.kind] at noAssign noCall
    have same : (Problem.expectedAssignOrCall name.lexeme ahead).diagnostic ahead.span =
        (Problem.expectedAssignOrCall name.lexeme other).diagnostic other.span := by
      simp only [Problem.diagnostic, Problem.code, Problem.message, Problem.hint, alike.describe,
        alike.span]
    rw [same]
    exact .neither named noAssign noCall
  | noStatement noName noPrint =>
    rw [alike.kind] at noPrint
    have same : (Problem.expectedStatement ahead).diagnostic ahead.span =
        (Problem.expectedStatement other).diagnostic other.span := by
      simp only [Problem.diagnostic, Problem.code, Problem.message, Problem.hint, alike.describe,
        alike.span]
    rw [same]
    exact .noStatement (fun named => noName (alike.isName.mpr named)) noPrint

/-- Recovery leaves what stands behind a closed segment, whatever was refused in the segment. -/
theorem recover_closed {segment : List Token} (closed : Closed segment) (rest : List Token) :
    recover (segment ++ rest) = rest := by
  obtain ⟨within, ending, rfl, inside, ends⟩ := closed
  induction within with
  | nil => simp [recover, ends]
  | cons first others shorter =>
    obtain ⟨noSemicolon, going⟩ := inside first List.mem_cons_self
    have behind := shorter fun token member => inside token (List.mem_cons_of_mem _ member)
    rw [List.cons_append, List.cons_append, recover, if_neg going, if_neg noSemicolon, behind]

/-- Recovery leaves the end of the input where no semicolon comes before it. -/
theorem recover_inside {within rest : List Token} (inside : ∀ token ∈ within, token.Inside)
    (ends : (next rest).kind = .endOfInput) : recover (within ++ rest) = rest := by
  induction within with
  | nil =>
    cases rest with
    | nil => rfl
    | cons first others => exact if_pos ends
  | cons first others shorter =>
    obtain ⟨noSemicolon, going⟩ := inside first List.mem_cons_self
    have behind := shorter fun token member => inside token (List.mem_cons_of_mem _ member)
    rw [List.cons_append, recover, if_neg going, if_neg noSemicolon, behind]

/-- What comes of a segment before the token that ends the input: the same as when it
stands alone. A closed segment does not see that token, and an unclosed one sees its
place and is refused. -/
inductive Settled (dialect : Dialect) (ending : Token) (segment : List Token) :
    Except Diagnostic Stmt → Prop where
  | closed {result : Except Diagnostic Stmt} (closed : Closed segment)
      (alone : ∀ other, other.kind = .endOfInput →
        statements dialect (segment ++ [other]) = [result]) :
      Settled dialect ending segment result
  | unclosed {problem : Diagnostic} (unclosed : Unclosed segment)
      (ends : ending.kind = .endOfInput)
      (alone : ∀ other, Alike ending other →
        statements dialect (segment ++ [other]) = [.error problem]) :
      Settled dialect ending segment (.error problem)

/-- A refused statement before some dropped tokens and a token that ends the input is all
that is read of them. -/
theorem StatementWalk.statements_alone {dialect : Dialect} {used dropped : List Token}
    {other : Token} {problem : Diagnostic}
    (walk : StatementWalk dialect used (next (dropped ++ [other])) (.error problem))
    (going : (next (used ++ (dropped ++ [other]))).kind ≠ .endOfInput)
    (ends : other.kind = .endOfInput) (left : recover (dropped ++ [other]) = [other]) :
    statements dialect (used ++ dropped ++ [other]) = [.error problem] := by
  rw [List.append_assoc, walk.statements_eq rfl going, leftBehind, left,
    @statements_end dialect [other] ends]

/-- A statement takes a segment from the front of the tokens.

Proof: a statement that is read is a closed segment. A refused one, together with what
recovery drops, is a segment, closed or not as recovery ends; and the token ahead of the
refused statement is one of those dropped, or the one that ends the input. -/
theorem StatementWalk.exists_segment {dialect : Dialect} {used rest : List Token}
    {result : Except Diagnostic Stmt} (walk : StatementWalk dialect used (next rest) result)
    (going : (next (used ++ rest)).kind ≠ .endOfInput) :
    ∃ segment, used ++ rest = segment ++ leftBehind result rest ∧
      Settled dialect (next (leftBehind result rest)) segment result := by
  cases result with
  | ok stmt =>
    refine ⟨used, rfl, .closed walk.confined ?_⟩
    intro other ends
    rw [(walk.derived.walk other).statements_eq rfl (going_of_statement walk.derived _)]
    exact congrArg _ (statements_end dialect ends)
  | error problem =>
    have inside : ∀ token ∈ used, token.Inside := walk.confined
    obtain ⟨dropped, split, stops⟩ := exists_dropped rest
    have whole : used ++ rest = (used ++ dropped) ++ recover rest := by
      rw [List.append_assoc, ← split]
    have some : used ++ dropped ≠ [] := by
      intro none
      rcases stops with closed | ⟨-, atEnd⟩
      · exact closed.ne_nil (List.append_eq_nil_iff.mp none).2
      · rw [whole, none, List.nil_append] at going
        exact going atEnd
    have goingOn (other : Token) : (next (used ++ (dropped ++ [other]))).kind ≠ .endOfInput := by
      rw [whole, Token.next_append_of_ne_nil some (recover rest) [other]] at going
      rwa [List.append_assoc] at going
    refine ⟨used ++ dropped, whole, ?_⟩
    rcases stops with closed | ⟨skipped, atEnd⟩
    · refine .closed (closed.behind inside) ?_
      intro other ends
      have same := Token.next_append_of_ne_nil closed.ne_nil (recover rest) [other]
      rw [← split] at same
      rw [same] at walk
      exact walk.statements_alone (goingOn other) ends (recover_closed closed [other])
    · refine .unclosed ⟨some, List.forall_mem_append.mpr ⟨inside, skipped⟩⟩ atEnd ?_
      intro other alike
      have ahead : Alike (next rest) (next (dropped ++ [other])) := by
        have seen := alike.next dropped
        rwa [← Token.next_append, leftBehind, ← split] at seen
      have ends : other.kind = .endOfInput := alike.kind.symm.trans atEnd
      exact (walk.alike ahead).statements_alone (goingOn other) ends (recover_inside skipped ends)

/-- The segments before the end of the input are settled one after another.

Proof: induction on the statements. A statement with the rest that recovery drops is a segment.
The last one may have no semicolon, and behind it the input ends. -/
theorem settled_segments (dialect : Dialect) (tokens : List Token) :
    List.Forall₂ (Settled dialect (ending tokens)) (segments (beforeEnd tokens))
      (statements dialect tokens) := by
  induction tokens using statements_induction dialect with
  | ended tokens atEnd =>
    rw [beforeEnd_of_ends atEnd, statements_end dialect atEnd]
    exact .nil
  | statement used rest result walk going behind =>
    obtain ⟨segment, split, settled⟩ := walk.exists_segment going
    rw [walk.statements_eq rfl going, split]
    cases settled with
    | closed closed alone =>
      rw [beforeEnd_append closed.going, segments_closed closed, ending_append closed.going]
      exact .cons (.closed closed alone) behind
    | unclosed unclosed ends alone =>
      have goes : ∀ token ∈ segment, token.kind ≠ .endOfInput := by
        intro token member
        exact (unclosed.2 token member).2
      rw [beforeEnd_append goes, beforeEnd_of_ends ends, List.append_nil,
        segments_unclosed unclosed, ending_append goes, ending_of_ends ends,
        statements_end dialect ends]
      exact .cons (.unclosed unclosed ends alone) .nil

/-- A segment that is settled with a statement is one: the statement is derived from all its
tokens. -/
theorem Settled.derived {dialect : Dialect} {ending : Token} {segment : List Token} {stmt : Stmt}
    (settled : Settled dialect ending segment (.ok stmt)) : Statement dialect segment stmt := by
  cases settled with
  | closed closed alone =>
    obtain ⟨used, rest, derived, before, others⟩ :=
      exists_statement_of_reads (alone (closing .nowhere) rfl)
    have left : beforeEnd rest = [] :=
      beforeEnd_of_ends ((statements_eq_nil_iff dialect rest).mp others)
    have behind : beforeEnd [closing .nowhere] = [] := rfl
    rw [beforeEnd_append closed.going, left, behind, List.append_nil, List.append_nil] at before
    rw [before]
    exact derived

/-- The trees that are read are derived from some of the segments, in their order. -/
theorem exists_derived_segments (dialect : Dialect) (tokens : List Token) :
    ∃ parts, parts.Sublist (segments (beforeEnd tokens)) ∧
      List.Forall₂ (Statement dialect) parts (trees (statements dialect tokens)) := by
  have settled := settled_segments dialect tokens
  generalize segments (beforeEnd tokens) = cut, statements dialect tokens = outcomes at settled ⊢
  induction settled with
  | nil => exact ⟨[], List.Sublist.slnil, .nil⟩
  | @cons segment result others results settled _ behind =>
    obtain ⟨parts, among, derived⟩ := behind
    cases result with
    | ok stmt => exact ⟨segment :: parts, among.cons_cons segment, .cons settled.derived derived⟩
    | error problem => exact ⟨parts, among.cons segment, derived⟩

/-- Each of some derived statements is derived from one of the parts. -/
theorem exists_part {dialect : Dialect} {parts : List (List Token)} {body : List Stmt}
    (derived : List.Forall₂ (Statement dialect) parts body) {stmt : Stmt} (member : stmt ∈ body) :
    ∃ part ∈ parts, Statement dialect part stmt := by
  induction derived with
  | nil => cases member
  | @cons part first parts body derivation _ others =>
    rcases List.mem_cons.mp member with rfl | later
    · exact ⟨part, List.mem_cons_self, derivation⟩
    · obtain ⟨found, among, derivation⟩ := others later
      exact ⟨found, List.mem_cons_of_mem part among, derivation⟩

/-- A tree that is read is derived from one of the segments. -/
theorem exists_segment_of_tree {dialect : Dialect} {tokens : List Token} {stmt : Stmt}
    (member : stmt ∈ trees (statements dialect tokens)) :
    ∃ segment ∈ segments (beforeEnd tokens), Statement dialect segment stmt := by
  obtain ⟨parts, among, derived⟩ := exists_derived_segments dialect tokens
  obtain ⟨part, listed, derivation⟩ := exists_part derived member
  exact ⟨part, among.subset listed, derivation⟩

/-- The trees of outcomes in two parts are those of the one and then those of the other. -/
theorem trees_append (first second : List (Except Diagnostic Stmt)) :
    trees (first ++ second) = trees first ++ trees second :=
  List.filterMap_append

/-- The diagnostics of outcomes in two parts are those of the one and then those of the other. -/
theorem diagnostics_append (first second : List (Except Diagnostic Stmt)) :
    diagnostics (first ++ second) = diagnostics first ++ diagnostics second :=
  List.filterMap_append

/-- Every outcome is a tree or a diagnostic, so that their numbers add up to that of the
statements. -/
theorem length_trees_add (outcomes : List (Except Diagnostic Stmt)) :
    (trees outcomes).length + (diagnostics outcomes).length = outcomes.length := by
  induction outcomes with
  | nil => rfl
  | cons first rest others =>
    have here : (trees [first]).length + (diagnostics [first]).length = 1 := by
      cases first <;> rfl
    rw [← List.singleton_append, trees_append, diagnostics_append, List.length_append,
      List.length_append, List.length_append, List.length_singleton]
    omega

end Reading

end Astro
