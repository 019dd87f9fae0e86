import Astro.Proofs.Lexing

/-!
# Where the tokens of a text stand

Every position that a token has stands between two glyphs of the text, and its line and
column are those that a recount of the bytes before it gives. The bytes under the span of
a token that is legal are its spelling. The tokens of a text stand one behind another, so
a stretch from one of them to a later one is also a span of the text.
-/

namespace Astro

open Text

/-- A position stands in a text: its offset does not lie outside and not inside a glyph,
and its line and column are counted from the bytes before it. -/
structure Position.StandsIn (position : Position) (text : Text) : Prop where
  bounded : 0 ≤ position.offset ∧ position.offset ≤ text.length
  boundary : ∃ front back, text.glyphs = front ++ back ∧
    position.offset = (ofGlyphs front).length
  counted : position = .recount text position.offset.toNat

/-- A span lies in a text: both ends stand in it, and they are in order. -/
structure Span.LiesIn (span : Span) (text : Text) : Prop where
  start : span.start.StandsIn text
  stop : span.stop.StandsIn text
  ordered : span.start.offset ≤ span.stop.offset

/-- The bytes of a text under a span. It is what the source says where the span is. -/
def Text.under (text : Text) (span : Span) : Text :=
  text.slice span.start.offset.toNat span.stop.offset.toNat

/-- Walking over glyphs moves the offset by their bytes. -/
theorem Position.offset_after (position : Position) (glyphs : List Glyph) :
    (position.after glyphs).offset = position.offset + (ofGlyphs glyphs).length := by
  induction glyphs generalizing position with
  | nil => exact (Int.add_zero _).symm
  | cons first rest others =>
    have moved : (position.step first).offset = position.offset + first.bytes.length := by
      unfold step
      split <;> rfl
    have here : position.after (first :: rest) = (position.step first).after rest := rfl
    have bytes : ofGlyphs (first :: rest) = first.bytes ++ ofGlyphs rest := rfl
    rw [here, others, moved, bytes, List.length_append]
    omega

/-- Walking over glyphs of a text leads to a position in it. -/
theorem Position.standsIn_after {text : Text} {front back : List Glyph}
    (reads : text.glyphs = front ++ back) : (start.after front).StandsIn text := by
  have length := congrArg List.length (bytes_of_reads reads)
  rw [List.length_append] at length
  have offset : (start.after front).offset = (ofGlyphs front).length := by
    rw [offset_after]
    exact Int.zero_add _
  constructor
  · omega
  · exact ⟨front, back, reads, offset⟩
  · rw [offset, Int.toNat_natCast]
    exact after_start_eq_recount reads

/-- The span of a stretch of glyphs of a text lies in it. -/
theorem Span.liesIn_after {text : Text} {front glyphs back : List Glyph}
    (reads : text.glyphs = front ++ (glyphs ++ back)) :
    (Span.mk (Position.start.after front) (Position.start.after (front ++ glyphs))).LiesIn text := by
  constructor
  · exact Position.standsIn_after reads
  · exact Position.standsIn_after (reads.trans (List.append_assoc ..).symm)
  · simp only [Position.offset_after, ofGlyphs_append, List.length_append]
    omega

/-- The bytes under the span of a stretch of glyphs are those of the glyphs. -/
theorem Text.under_after {text : Text} {front glyphs back : List Glyph}
    (reads : text.glyphs = front ++ (glyphs ++ back)) :
    text.under ⟨Position.start.after front, Position.start.after (front ++ glyphs)⟩ =
      ofGlyphs glyphs := by
  have split : text = ofGlyphs front ++ ofGlyphs glyphs ++ ofGlyphs back := by
    rw [List.append_assoc, ← ofGlyphs_append, ← bytes_of_reads reads]
  have zero : Position.start.offset = 0 := rfl
  rw [under, Position.offset_after, Position.offset_after, zero, Int.zero_add, Int.zero_add,
    Int.toNat_natCast, Int.toNat_natCast, ofGlyphs_append]
  exact slice_between split

namespace Token

/-- A token covers some glyphs between others, and spells them unless it is illegal. -/
structure Covers (start : Position) (token : Token) (front glyphs : List Glyph) : Prop where
  place : token.span = ⟨start.after front, start.after (front ++ glyphs)⟩
  spelled : token.kind ≠ .illegal → token.lexeme = ofGlyphs glyphs

/-- A piece that is cut off is spelled as it stands unless it is illegal. -/
theorem lexeme_of_cut {first : Glyph} {rest : List Glyph} {kind : Token.Kind} {length : Nat}
    (decided : Piece.Cut first rest (some kind) length) (legal : kind ≠ .illegal) :
    Piece.lexeme ⟨some kind, first :: rest.take length⟩ = ofGlyphs (first :: rest.take length) := by
  cases first with
  | char c => exact Piece.lexeme_eq_ofGlyphs decided.whole
  | stray byte => exact absurd (Option.some.inj decided.stray.1) legal

/-- Each token that is placed covers some of the glyphs.

Proof: induction over the pieces. The first piece is covered by its token if it has one,
and tokens of later pieces cover glyphs behind it. -/
theorem exists_covers {start : Position} {glyphs : List Glyph} {token : Token}
    (member : token ∈ place start (Piece.cut glyphs)) :
    ∃ front covered back, glyphs = front ++ (covered ++ back) ∧
      token.Covers start front covered := by
  induction glyphs using Piece.cut_induction generalizing start with
  | nothing =>
    rw [Piece.cut, place, List.mem_singleton] at member
    subst member
    exact ⟨[], [], [], rfl, rfl, fun _ => rfl⟩
  | piece first rest kind length decided pieces behind =>
    have split : first :: rest = (first :: rest.take length) ++ rest.drop length := by
      rw [List.cons_append, List.take_append_drop]
    have later (among : token ∈ place (start.after (first :: rest.take length))
        (Piece.cut (rest.drop length))) : ∃ front covered back,
        first :: rest = front ++ (covered ++ back) ∧ token.Covers start front covered := by
      obtain ⟨front, covered, back, others, covers⟩ := behind among
      refine ⟨(first :: rest.take length) ++ front, covered, back, ?_, ?_, covers.spelled⟩
      · rw [split, others, List.append_assoc]
      · simp only [covers.place, Position.after_append]
    rw [pieces, place] at member
    cases kind with
    | none => exact later member
    | some kind =>
      rcases List.mem_cons.mp member with rfl | among
      · exact ⟨[], _, _, split, rfl, lexeme_of_cut decided⟩
      · exact later among

/-- A token stands before another one. It stops before the other one starts, or where that starts.
-/
def Precedes (first second : Token) : Prop := first.span.stop.offset ≤ second.span.start.offset

/-- Placed tokens stand one behind another.

Proof: induction on the glyphs, piece by piece. Every token behind the first starts where some
glyphs after it have been passed. -/
theorem inOrder_place (start : Position) (glyphs : List Glyph) :
    (place start (Piece.cut glyphs)).Pairwise Precedes := by
  induction glyphs using Piece.cut_induction generalizing start with
  | nothing =>
    rw [Piece.cut, place]
    exact List.pairwise_singleton _ _
  | piece first rest kind length decided pieces behind =>
    rw [pieces, place]
    cases kind with
    | none => exact behind _
    | some kind =>
      refine List.pairwise_cons.mpr ⟨?_, behind _⟩
      intro token later
      obtain ⟨front, covered, back, -, covers⟩ := exists_covers later
      rw [Precedes, covers.place]
      simp only [Position.offset_after]
      omega

section OfText

variable {text : Text} {token : Token}

/-- The span of a token lies in its text. Both of its ends are places that are counted in the
text. -/
theorem liesIn_of_mem (member : token ∈ ofText text) : token.span.LiesIn text := by
  obtain ⟨front, covered, back, reads, covers⟩ := exists_covers member
  rw [covers.place]
  exact Span.liesIn_after reads

/-- The bytes under a token are its spelling, unless it is illegal. -/
theorem under_of_mem (member : token ∈ ofText text) (legal : token.kind ≠ .illegal) :
    text.under token.span = token.lexeme := by
  obtain ⟨front, covered, back, reads, covers⟩ := exists_covers member
  rw [covers.place, covers.spelled legal]
  exact under_after reads

end OfText

end Token

end Astro
