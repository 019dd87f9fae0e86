import Astro.Proofs.Endings

/-!
# The last word of a text

The tokens of a text are its words, which have the kinds of its pieces, and behind
them the end of the input. Where a statement ends has been decided twice by now: the
prompt looks at lines, from the last one up, and drops what follows a comment mark and
the white space around the rest; a reader looks at tokens. Main statement: both decide
alike on every text, whether its bytes are characters or not
(`endsStatement_iff_last_word`).
-/

namespace Astro

namespace Piece

/-- No piece of a text ends the input. The token that does is put behind those of the pieces. -/
theorem ne_endOfInput_of_mem_kinds (glyphs : List Glyph) :
    ∀ kind ∈ kinds (cut glyphs), kind ≠ .endOfInput := by
  intro kind member
  obtain ⟨piece, among, sort⟩ := List.mem_filterMap.mp member
  obtain ⟨first, rest, length, decided, -⟩ := exists_cut_of_mem among
  rw [sort] at decided
  exact decided.ne_endOfInput

end Piece

namespace Token

/-- The tokens of some pieces are placed the same way whatever stands behind them.

Proof: induction on the pieces. A token is placed by the glyphs before it, so that what stands
behind is placed where the pieces end. -/
theorem exists_words (start : Position) (pieces : List Piece) :
    ∃ words, words.map Token.kind = Piece.kinds pieces ∧ ∀ behind,
      place start (pieces ++ behind) =
        words ++ place (start.after (pieces.flatMap Piece.glyphs)) behind := by
  induction pieces generalizing start with
  | nil => exact ⟨[], rfl, fun behind => rfl⟩
  | cons piece rest others =>
    obtain ⟨words, kinds, placed⟩ := others (start.after piece.glyphs)
    rw [Piece.kinds] at kinds
    cases sort : piece.kind with
    | none =>
      refine ⟨words, ?_, fun behind => ?_⟩
      · rw [Piece.kinds, List.filterMap_cons_none sort, kinds]
      · simp only [List.cons_append, place, sort, placed, List.flatMap_cons, Position.after_append]
    | some kind =>
      refine ⟨⟨kind, piece.lexeme, ⟨start, start.after piece.glyphs⟩⟩ :: words, ?_, fun behind => ?_⟩
      · rw [Piece.kinds, List.filterMap_cons_some sort, List.map_cons, kinds]
      · simp only [List.cons_append, place, sort, placed, List.flatMap_cons, Position.after_append]

/-- Tokens that stand for the pieces of a text do not end the input. -/
theorem going_of_kinds {words : List Token} {text : Text}
    (kinds : words.map Token.kind = Piece.kinds text.pieces) :
    ∀ token ∈ words, token.kind ≠ .endOfInput := by
  intro token member
  have among : token.kind ∈ words.map Token.kind := List.mem_map_of_mem member
  rw [kinds] at among
  exact Piece.ne_endOfInput_of_mem_kinds text.glyphs token.kind among

/-- The words of a text have the kinds of its pieces, and the end of the input stands
behind them. -/
theorem exists_words_of_text (text : Text) :
    ∃ words ending, words.map Token.kind = Piece.kinds text.pieces ∧
      ending.kind = .endOfInput ∧ ofText text = words ++ [ending] := by
  obtain ⟨words, kinds, placed⟩ := exists_words .start text.pieces
  have alone := placed []
  rw [List.append_nil] at alone
  exact ⟨words, _, kinds, rfl, alone⟩

/-- The tokens of a text are its words and the end of the input. -/
theorem exists_ending (text : Text) :
    ∃ words ending, (∀ token ∈ words, token.kind ≠ .endOfInput) ∧ ending.kind = .endOfInput ∧
      ofText text = words ++ [ending] := by
  obtain ⟨words, ending, kinds, ends, tokens⟩ := exists_words_of_text text
  exact ⟨words, ending, going_of_kinds kinds, ends, tokens⟩

end Token

/-- The prompt takes a text for the end of a statement exactly when the text has a word
and its last word is a semicolon. -/
theorem endsStatement_iff_last_word (text : Text) :
    endsStatement text = true ↔
      ∃ last, ((Token.ofText text).filter fun token => token.kind ≠ .endOfInput).getLast? =
        some last ∧ last.kind = .semicolon := by
  obtain ⟨words, ending, kinds, ends, tokens⟩ := Token.exists_words_of_text text
  have said : (Token.ofText text).filter (fun token => token.kind ≠ .endOfInput) = words := by
    have kept : words.filter (fun token => token.kind ≠ .endOfInput) = words := by
      apply List.filter_eq_self.mpr
      intro token member
      simpa using Token.going_of_kinds kinds token member
    rw [tokens, List.filter_append, kept]
    simp [ends]
  rw [endsStatement_iff, ← kinds, said, List.getLast?_map, Option.map_eq_some_iff]

end Astro
