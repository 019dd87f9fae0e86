import Astro.Proofs.Anchors
import Astro.Proofs.Segments

/-!
# Recovery by statement

A segment of the tokens contributes one tree or one diagnostic, the same that it
contributes when it stands alone, and no mistake in one of them shows in another. So what
is read from tokens is the concatenation of what their segments contribute, and tokens
that stand behind the end of the input do not matter.

Where the tokens come from a text, the diagnostics stand in the order of their places.
-/

namespace Astro

/-- A token starts before another one. Tokens are compared by the offsets of their first bytes. -/
def Token.StartsBefore (first second : Token) : Prop :=
  first.span.start.offset < second.span.start.offset

/-- Placed tokens start one behind another: each of them but the last covers a glyph.

Proof: induction on the glyphs, piece by piece. A token starts before the glyphs that it covers,
and those behind it start after them. -/
theorem Token.startsBefore_place (start : Position) (glyphs : List Glyph) :
    (place start (Piece.cut glyphs)).Pairwise StartsBefore := by
  induction glyphs using Piece.cut_induction generalizing start with
  | nothing =>
    rw [Piece.cut, place]
    exact List.pairwise_singleton _ _
  | piece first rest kind length decided pieces behind =>
    rw [pieces, place]
    cases kind with
    | none => exact behind _
    | some kind =>
      refine List.pairwise_cons.mpr ⟨?_, behind _⟩
      intro token later
      obtain ⟨front, covered, back, -, covers⟩ := exists_covers later
      have width : 0 < first.bytes.length := List.length_pos_iff.mpr first.bytes_ne_nil
      have bytes : Text.ofGlyphs (first :: rest.take length) =
          first.bytes ++ Text.ofGlyphs (rest.take length) := rfl
      rw [StartsBefore, covers.place]
      simp only [Position.offset_after, bytes, List.length_append]
      omega

namespace Reading

open Token

/-- A refused statement is refused at one of its tokens or at the token ahead. -/
theorem StatementWalk.exists_culprit {dialect : Dialect} {used : List Token} {ahead : Token}
    {problem : Diagnostic} (walk : StatementWalk dialect used ahead (.error problem)) :
    ∃ culprit ∈ used ++ [ahead], problem.span = culprit.span := by
  obtain ⟨read, culprit, place, -, stops⟩ := walk.exists_refusal
  refine ⟨culprit, ?_, place⟩
  rcases stops with ⟨-, rfl⟩ | ⟨rfl, -⟩
  · exact List.mem_append_right used List.mem_cons_self
  · exact List.mem_append_left _ (List.mem_append_right read List.mem_cons_self)

/-- Behind a refused statement, a diagnostic is about a token behind its segment.

Proof: the first culprit belongs to the segment that recovery closes, and the other stands behind
it. Where recovery closes no segment, it has come to the end of the input and nothing is reported
any more. -/
theorem StatementWalk.precedes_later {dialect : Dialect} {used rest : List Token}
    {problem later : Diagnostic}
    (walk : StatementWalk dialect used (next rest) (.error problem))
    (ends : ∃ token ∈ recover rest, token.kind = .endOfInput)
    (ordered : (used ++ rest).Pairwise StartsBefore)
    (reported : later ∈ diagnostics (statements dialect (recover rest))) :
    problem.span.start.offset < later.span.start.offset := by
  obtain ⟨front, read, culprit, back, earliest⟩ := Reading.exists_earliest dialect ends reported
  obtain ⟨first, member, place⟩ := walk.exists_culprit
  obtain ⟨dropped, split, closed | ⟨-, atEnd⟩⟩ := exists_dropped rest
  · have earlier : first ∈ used ++ dropped := by
      obtain ⟨token, others, rfl⟩ := List.exists_cons_of_ne_nil closed.ne_nil
      rw [split, List.cons_append, next_cons] at member
      rcases List.mem_append.mp member with before | here
      · exact List.mem_append_left _ before
      · rw [List.mem_singleton.mp here]
        exact List.mem_append_right used List.mem_cons_self
    have behind : culprit ∈ recover rest := by
      rw [earliest.split]
      exact List.mem_append_right front (List.mem_append_right read List.mem_cons_self)
    rw [split, ← List.append_assoc] at ordered
    rw [place, earliest.place]
    exact (List.pairwise_append.mp ordered).2.2 first earlier culprit behind
  · rw [statements_end dialect atEnd] at reported
    cases reported

/-- The diagnostics about tokens in order are in order.

Proof: one statement after another. A refused statement is refused inside its segment,
and every later diagnostic is about a token behind that. -/
theorem diagnostics_inOrder (dialect : Dialect) {tokens : List Token}
    (ends : ∃ token ∈ tokens, token.kind = .endOfInput) (ordered : tokens.Pairwise StartsBefore) :
    (diagnostics (statements dialect tokens)).Pairwise fun first second =>
      first.span.start.offset < second.span.start.offset := by
  induction tokens using statements_induction dialect with
  | ended tokens atEnd =>
    rw [statements_end dialect atEnd]
    exact List.Pairwise.nil
  | statement used rest result walk going behind =>
    obtain ⟨-, onward⟩ := walk.ends_leftBehind ends
    have remaining : (leftBehind result rest).Pairwise StartsBefore := by
      obtain ⟨segment, split, -⟩ := walk.exists_segment going
      rw [split] at ordered
      exact (List.pairwise_append.mp ordered).2.1
    have later := behind onward remaining
    rw [walk.statements_eq rfl going]
    cases result with
    | ok stmt => exact later
    | error problem =>
      refine List.pairwise_cons.mpr ⟨?_, later⟩
      intro diagnostic reported
      exact walk.precedes_later onward ordered reported

end Reading

namespace Program

open Reading Token

/-- What a segment contributes when it is read alone, before the end of the input at a
span: trees and diagnostics. -/
def contribution (dialect : Dialect) (ending : Span) (segment : List Token) :
    List Stmt × List Diagnostic :=
  let parsed := ofTokens dialect (segment ++ [closing ending])
  (parsed.1.body, parsed.2)

/-- Before the end of the input, the diagnostics of a program are those of its
statements. -/
theorem diagnostics_ofTokens {dialect : Dialect} {tokens : List Token}
    (going : (next tokens).kind ≠ .endOfInput) :
    (ofTokens dialect tokens).2 = diagnostics (statements dialect tokens) := by
  rw [ofTokens, if_neg going]

/-- The trees of a program are always those of its statements. -/
theorem body_ofTokens (dialect : Dialect) (tokens : List Token) :
    (ofTokens dialect tokens).1.body = trees (statements dialect tokens) := by
  rw [ofTokens]
  split <;> rfl

/-- A segment alone contributes its one outcome. It is a tree and no diagnostic, or a diagnostic
and no tree. -/
theorem contribution_of_alone {dialect : Dialect} {ending : Span} {segment : List Token}
    {result : Except Diagnostic Stmt}
    (alone : statements dialect (segment ++ [closing ending]) = [result]) :
    contribution dialect ending segment = (trees [result], diagnostics [result]) := by
  have going : (next (segment ++ [closing ending])).kind ≠ .endOfInput := by
    intro ends
    rw [statements_end dialect ends] at alone
    cases alone
  simp only [contribution, body_ofTokens, diagnostics_ofTokens going, alone]

/-- A segment contributes alone what comes of it among others. -/
theorem contribution_of_settled {dialect : Dialect} {ending : Token} {segment : List Token}
    {result : Except Diagnostic Stmt} (settled : Settled dialect ending segment result) :
    contribution dialect ending.span segment = (trees [result], diagnostics [result]) := by
  apply contribution_of_alone
  cases settled with
  | closed closed alone => exact alone _ rfl
  | unclosed unclosed ends alone => exact alone _ (Alike.closing ends)

/-- Segments contribute one after another.

Proof: induction on the segments and their outcomes side by side. -/
theorem contributions_of_settled {dialect : Dialect} {ending : Token}
    {segments : List (List Token)} {outcomes : List (Except Diagnostic Stmt)}
    (settled : List.Forall₂ (Settled dialect ending) segments outcomes) :
    trees outcomes = segments.flatMap (fun segment => (contribution dialect ending.span segment).1) ∧
      diagnostics outcomes =
        segments.flatMap (fun segment => (contribution dialect ending.span segment).2) := by
  induction settled with
  | nil => exact ⟨rfl, rfl⟩
  | cons first _ others =>
    obtain ⟨trees, diagnostics⟩ := others
    rw [List.flatMap_cons, List.flatMap_cons, contribution_of_settled first, ← trees, ← diagnostics]
    exact ⟨trees_append [_] _, diagnostics_append [_] _⟩

/-- Every segment of a program is settled. Its outcome is the one at the same place in the list of
outcomes. -/
theorem exists_settled (dialect : Dialect) {tokens segment : List Token}
    (member : segment ∈ segments (beforeEnd tokens)) :
    ∃ result, Settled dialect (ending tokens) segment result := by
  have settled := settled_segments dialect tokens
  generalize segments (beforeEnd tokens) = cut, statements dialect tokens = outcomes
    at member settled
  induction settled with
  | nil => cases member
  | cons first _ others =>
    rcases List.mem_cons.mp member with rfl | later
    · exact ⟨_, first⟩
    · exact others later

/-- Nothing stands before the end of the input exactly at it. -/
theorem beforeEnd_eq_nil_iff (tokens : List Token) :
    beforeEnd tokens = [] ↔ (next tokens).kind = .endOfInput := by
  constructor
  · intro none
    obtain ⟨rest, split, ends⟩ := exists_beforeEnd tokens
    rw [split, none]
    exact ends
  · exact beforeEnd_of_ends

/-- Without a statement there is one diagnostic, at the end of the input. -/
theorem ofTokens_empty {dialect : Dialect} {tokens : List Token} (empty : beforeEnd tokens = []) :
    (ofTokens dialect tokens).1.body = [] ∧
      (ofTokens dialect tokens).2 = [Problem.emptyProgram.diagnostic (ending tokens).span] := by
  have ends := (beforeEnd_eq_nil_iff tokens).mp empty
  rw [body_ofTokens, statements_end dialect ends, ofTokens, if_pos ends, ending_of_ends ends]
  exact ⟨rfl, rfl⟩

/-- A program is put together from what its segments contribute. -/
theorem ofTokens_contributions (dialect : Dialect) {tokens : List Token}
    (written : beforeEnd tokens ≠ []) :
    (ofTokens dialect tokens).1.body = (segments (beforeEnd tokens)).flatMap
        (fun segment => (contribution dialect (ending tokens).span segment).1) ∧
      (ofTokens dialect tokens).2 = (segments (beforeEnd tokens)).flatMap
        (fun segment => (contribution dialect (ending tokens).span segment).2) := by
  have going : (next tokens).kind ≠ .endOfInput := fun ends => written (beforeEnd_of_ends ends)
  rw [body_ofTokens, diagnostics_ofTokens going]
  exact contributions_of_settled (settled_segments dialect tokens)

/-- Of the end of the input, only what stands before it and its place matter. -/
theorem ofTokens_congr (dialect : Dialect) {first second : List Token}
    (written : beforeEnd first = beforeEnd second)
    (place : (ending first).span = (ending second).span) :
    (ofTokens dialect first).1.body = (ofTokens dialect second).1.body ∧
      (ofTokens dialect first).2 = (ofTokens dialect second).2 := by
  by_cases empty : beforeEnd first = []
  · obtain ⟨body, diagnostics⟩ := @ofTokens_empty dialect first empty
    obtain ⟨otherBody, others⟩ := @ofTokens_empty dialect second (written ▸ empty)
    rw [body, diagnostics, otherBody, others, place]
    exact ⟨rfl, rfl⟩
  · obtain ⟨body, diagnostics⟩ := ofTokens_contributions dialect empty
    obtain ⟨otherBody, others⟩ := ofTokens_contributions dialect (written ▸ empty)
    rw [body, diagnostics, otherBody, others, written, place]
    exact ⟨rfl, rfl⟩

/-- Tokens behind the end of the input do not matter. -/
theorem ofTokens_behind_end (dialect : Dialect) {front : List Token} {last : Token}
    (going : ∀ token ∈ front, token.kind ≠ .endOfInput) (ends : last.kind = .endOfInput)
    (behind : List Token) :
    (ofTokens dialect (front ++ last :: behind)).1.body =
        (ofTokens dialect (front ++ [last])).1.body ∧
      (ofTokens dialect (front ++ last :: behind)).2 = (ofTokens dialect (front ++ [last])).2 := by
  have atEnd (rest : List Token) : (next (last :: rest)).kind = .endOfInput := ends
  apply ofTokens_congr
  · rw [beforeEnd_append going, beforeEnd_append going, beforeEnd_of_ends (atEnd behind),
      beforeEnd_of_ends (atEnd [])]
  · rw [ending_append going, ending_append going, ending_of_ends (atEnd behind),
      ending_of_ends (atEnd []), next_cons, next_cons]

/-- Programs behind a semicolon are read after those before it. -/
theorem ofTokens_append (dialect : Dialect) {first second : List Token} (whole : Sealed first)
    (some : first ≠ []) (going : (next second).kind ≠ .endOfInput) :
    (ofTokens dialect (first ++ second)).1.body =
        (ofTokens dialect first).1.body ++ (ofTokens dialect second).1.body ∧
      (ofTokens dialect (first ++ second)).2 =
        (ofTokens dialect first).2 ++ (ofTokens dialect second).2 := by
  obtain ⟨token, rest, rfl⟩ := List.exists_cons_of_ne_nil some
  have starts (more : List Token) : (next (token :: more)).kind ≠ .endOfInput :=
    whole.goes token List.mem_cons_self
  have read := statements_append dialect whole second
  constructor
  · rw [body_ofTokens, body_ofTokens, body_ofTokens, read, trees_append]
  · have joined := @diagnostics_ofTokens dialect (token :: rest ++ second) (starts (rest ++ second))
    rw [joined, diagnostics_ofTokens (starts rest), diagnostics_ofTokens going, read,
      diagnostics_append]

/-- A token list is read segment by segment. What each segment contributes is what it would
contribute alone, and all is put together in order. -/
structure Segmentwise (dialect : Dialect) (tokens : List Token) : Prop where
  /-- Without a statement there is one diagnostic, about that. -/
  empty : beforeEnd tokens = [] → (ofTokens dialect tokens).1.body = [] ∧
    ∃ problem, (ofTokens dialect tokens).2 = [problem] ∧ problem.code = Text.ofString "E2004"
  /-- The segments are cut from the tokens before the end of the input. -/
  cut : (segments (beforeEnd tokens)).flatten = beforeEnd tokens
  /-- Otherwise trees and diagnostics are those of the segments, in order. -/
  contributed : beforeEnd tokens ≠ [] →
    (ofTokens dialect tokens).1.body = (segments (beforeEnd tokens)).flatMap
        (fun segment => (contribution dialect (ending tokens).span segment).1) ∧
      (ofTokens dialect tokens).2 = (segments (beforeEnd tokens)).flatMap
        (fun segment => (contribution dialect (ending tokens).span segment).2) ∧
      (ofTokens dialect tokens).1.body.length + (ofTokens dialect tokens).2.length =
        (segments (beforeEnd tokens)).length
  /-- Each segment contributes one tree or one diagnostic. -/
  single : ∀ segment ∈ segments (beforeEnd tokens),
    (∃ stmt, contribution dialect (ending tokens).span segment = ([stmt], [])) ∨
      ∃ problem, contribution dialect (ending tokens).span segment = ([], [problem])
  /-- A segment with a semicolon does not see where the input ends. -/
  closed : ∀ segment ∈ segments (beforeEnd tokens), Closed segment → ∀ span,
    contribution dialect span segment = contribution dialect (ending tokens).span segment
  /-- A segment without one has a diagnostic. -/
  unclosed : ∀ segment ∈ segments (beforeEnd tokens), ¬ Closed segment →
    ∃ problem, contribution dialect (ending tokens).span segment = ([], [problem])

/-- Reading goes segment by segment, whatever the tokens.

Proof: each clause reads a part of how the segments are settled, one statement or one diagnostic
for each of them. -/
theorem segmentwise (dialect : Dialect) (tokens : List Token) : Segmentwise dialect tokens := by
  constructor
  · intro empty
    obtain ⟨body, diagnostics⟩ := @ofTokens_empty dialect tokens empty
    exact ⟨body, _, diagnostics, rfl⟩
  · exact flatten_segments _
  · intro written
    obtain ⟨body, problems⟩ := ofTokens_contributions dialect written
    refine ⟨body, problems, ?_⟩
    have settled := settled_segments dialect tokens
    obtain ⟨trees, diagnostics⟩ := contributions_of_settled settled
    rw [body, problems, ← trees, ← diagnostics, length_trees_add, settled.length_eq]
  · intro segment member
    obtain ⟨result, settled⟩ := exists_settled dialect member
    rw [contribution_of_settled settled]
    cases result with
    | ok stmt => exact .inl ⟨stmt, rfl⟩
    | error problem => exact .inr ⟨problem, rfl⟩
  · intro segment member closed span
    obtain ⟨result, settled⟩ := exists_settled dialect member
    rw [contribution_of_settled settled]
    cases settled with
    | closed _ alone => exact contribution_of_alone (alone _ rfl)
    | unclosed unclosed _ _ => exact absurd closed unclosed.not_closed
  · intro segment member unclosed
    obtain ⟨result, settled⟩ := exists_settled dialect member
    rw [contribution_of_settled settled]
    cases settled with
    | closed closed _ => exact absurd closed unclosed
    | @unclosed problem _ _ _ => exact ⟨problem, rfl⟩

/-- Recovery is by statement. Tokens are read segment by segment, and those behind the end
of the input do not matter; what is read of two lists, the first of which ends with a
semicolon, is what is read of the one and then of the other; and the diagnostics about the
tokens of a text stand one behind another. -/
theorem recovers_by_statement (dialect : Dialect) :
    (∀ tokens, Segmentwise dialect tokens) ∧
    (∀ front last behind, (∀ token ∈ front, token.kind ≠ .endOfInput) → last.kind = .endOfInput →
      (ofTokens dialect (front ++ last :: behind)).1.body =
          (ofTokens dialect (front ++ [last])).1.body ∧
        (ofTokens dialect (front ++ last :: behind)).2 =
          (ofTokens dialect (front ++ [last])).2) ∧
    (∀ front ending back, (∀ token ∈ front, token.kind ≠ .endOfInput) →
      ending.kind = .semicolon → (next back).kind ≠ .endOfInput →
      (ofTokens dialect (front ++ [ending] ++ back)).1.body =
          (ofTokens dialect (front ++ [ending])).1.body ++ (ofTokens dialect back).1.body ∧
        (ofTokens dialect (front ++ [ending] ++ back)).2 =
          (ofTokens dialect (front ++ [ending])).2 ++ (ofTokens dialect back).2) ∧
    ∀ text, (ofTokens dialect (Token.ofText text)).2.Pairwise fun first second =>
      first.span.start.offset < second.span.start.offset := by
  refine ⟨segmentwise dialect, ?_, ?_, ?_⟩
  · intro front last behind going ends
    exact ofTokens_behind_end dialect going ends behind
  · intro front ending back going ends onward
    have whole : Sealed (front ++ [ending]) := by
      constructor
      · intro token member
        rcases List.mem_append.mp member with earlier | last
        · exact going token earlier
        · rw [List.mem_singleton.mp last, ends]
          decide
      · intro last atEnd
        rw [List.getLast?_concat] at atEnd
        cases atEnd
        exact ends
    exact ofTokens_append dialect whole (by simp) onward
  · intro text
    by_cases atEnd : (next (Token.ofText text)).kind = .endOfInput
    · rw [ofTokens, if_pos atEnd]
      exact List.pairwise_singleton _ _
    · rw [diagnostics_ofTokens atEnd]
      exact diagnostics_inOrder dialect (exists_endOfInput text) (startsBefore_place _ _)

end Program

end Astro
