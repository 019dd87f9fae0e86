import Astro.Diagnostic.Problem
import Astro.Proofs.Pieces
import Astro.Proofs.Positions

/-!
# Tokens account for every byte

The tokens of a text are read off its bytes from left to right: between two of
them stands layout and nothing else, each of them spells the bytes that it
covers, and its ends are where a recount of the text puts them (`Scanned`). No
byte is lost or read twice, whether the text is well-formed or not: a stray byte
is a token of its own, and the only one that is not spelled as it stands.
-/

namespace Astro

/-- The bytes of a text from one offset up to another. -/
def Text.slice (text : Text) (start stop : Nat) : Text := (text.drop start).take (stop - start)

namespace Text

/-- Two slices that meet make up a longer one. -/
theorem slice_append (text : Text) {start middle stop : Nat} (first : start ≤ middle)
    (second : middle ≤ stop) :
    text.slice start middle ++ text.slice middle stop = text.slice start stop := by
  have width : stop - start = (middle - start) + (stop - middle) := by omega
  have reach : middle = start + (middle - start) := by omega
  have behind : text.drop middle = (text.drop start).drop (middle - start) := by
    rw [List.drop_drop, ← reach]
  simp only [slice]
  rw [width, List.take_add, behind]

/-- What stands behind an offset is a slice and what stands behind it. -/
theorem slice_append_drop (text : Text) {start middle : Nat} (ordered : start ≤ middle) :
    text.slice start middle ++ text.drop middle = text.drop start := by
  have reach : middle = start + (middle - start) := by omega
  have behind : text.drop middle = (text.drop start).drop (middle - start) := by
    rw [List.drop_drop, ← reach]
  rw [slice, behind, List.take_append_drop]

/-- A stretch between two others is a slice. Its ends are the lengths of what stands before it and
of that with the stretch. -/
theorem slice_between {text front middle back : Text} (split : text = front ++ middle ++ back) :
    text.slice front.length (front ++ middle).length = middle := by
  rw [slice, split, List.append_assoc, List.drop_left, List.length_append, Nat.add_sub_cancel_left,
    List.take_left]

end Text

/-- Bytes that carry no meaning before the bytes `rest`: white space, and comments
that run up to a newline or to the end of everything. -/
inductive Layout (rest : Text) : Text → Prop where
  | none : Layout rest []
  | blank {c : Char} {more : Text} (white : Text.isBlank c = true) (behind : Layout rest more) :
      Layout rest (Text.ofChar c ++ more)
  | comment {body more : Text} (line : Text.newline ∉ body)
      (ends : more ++ rest = [] ∨ (more ++ rest).head? = some Text.newline)
      (behind : Layout rest more) :
      Layout rest (Text.ofString "//" ++ body ++ more)

/-- What a token says about the bytes that it covers. A stray byte is illegal and
spelled as U+FFFD; anything else is spelled as it stands. -/
def Token.Spells (text : Text) (start stop : Nat) (kind : Token.Kind) (lexeme : Text) : Prop :=
  if Text.firstChar? (text.drop start) = none then
    kind = .illegal ∧ stop = start + 1 ∧ lexeme = Text.ofChar Glyph.replacement
  else lexeme = text.slice start stop

/-- Tokens are those of a text from an offset on. -/
inductive Scanned (text : Text) : Nat → List Token → Prop where
  | ended {before : Nat} (gap : Layout [] (text.drop before)) :
      Scanned text before
        [⟨.endOfInput, [], ⟨.recount text text.length, .recount text text.length⟩⟩]
  | token {before start stop : Nat} {kind : Token.Kind} {lexeme : Text} {others : List Token}
      (ordered : before ≤ start) (covers : start < stop) (bounded : stop ≤ text.length)
      (gap : Layout (text.drop start) (text.slice before start))
      (goes : kind ≠ .endOfInput) (spelled : Token.Spells text start stop kind lexeme)
      (behind : Scanned text stop others) :
      Scanned text before
        (⟨kind, lexeme, ⟨.recount text start, .recount text stop⟩⟩ :: others)

/-- Layout before layout is layout. -/
theorem Layout.append {first second rest : Text} (front : Layout (second ++ rest) first)
    (behind : Layout rest second) : Layout rest (first ++ second) := by
  induction front with
  | none => exact behind
  | blank white _ longer =>
    rw [List.append_assoc]
    exact .blank white longer
  | comment line ends _ longer =>
    rw [List.append_assoc]
    refine .comment line ?_ longer
    rwa [List.append_assoc]

/-- Layout before the tokens of a text may be put before the gap of the first. If there are no
tokens, all of it is layout up to the end. -/
theorem Scanned.widen {text : Text} {before middle : Nat} {tokens : List Token}
    (ordered : before ≤ middle) (gap : Layout (text.drop middle) (text.slice before middle))
    (behind : Scanned text middle tokens) : Scanned text before tokens := by
  cases behind with
  | ended last =>
    have meets := text.slice_append_drop ordered
    refine .ended ?_
    rw [← meets]
    refine Layout.append ?_ last
    rwa [List.append_nil]
  | token follows covers bounded last goes spelled others =>
    have meets := text.slice_append ordered follows
    refine .token (ordered.trans follows) covers bounded ?_ goes spelled others
    rw [← meets]
    refine Layout.append ?_ last
    rwa [text.slice_append_drop follows]

open Text

/-- A piece that is no token is layout. A blank is one character, and a comment goes up to a
newline or to the end of the text without holding a newline. -/
theorem Piece.Cut.layout {text : Text} {front rest : List Glyph} {first : Glyph} {length : Nat}
    (reads : text.glyphs = front ++ first :: rest) (decided : Cut first rest none length) :
    Layout (ofGlyphs (rest.drop length)) (ofGlyphs (first :: rest.take length)) := by
  cases decided with
  | blank white =>
    cases first with
    | char c => exact .blank white .none
    | stray byte => simp [isBlankGlyph_stray] at white
  | comment slash again =>
    obtain ⟨body, rfl⟩ := exists_of_startsWith again (by decide)
    have start := Glyph.eq_char slash (by decide)
    rw [take_countWhile, drop_countWhile, start]
    have plain (glyph : Glyph) (member : glyph ∈ body) :
        newline ∈ glyph.bytes ↔ glyph.value = '\n' := by
      have inText : glyph ∈ text.glyphs := by
        rw [reads]
        simp [member]
      exact newline_mem_bytes_iff inText
    have line : newline ∉ ofGlyphs (body.takeWhile (·.value != '\n')) := by
      intro inside
      obtain ⟨glyph, taken, holds⟩ := List.mem_flatMap.mp inside
      have goes := List.mem_takeWhile_imp taken
      have ends := (plain glyph (List.takeWhile_subset _ taken)).mp holds
      simp [ends] at goes
    have ends : ofGlyphs (body.dropWhile (·.value != '\n')) = [] ∨
        (ofGlyphs (body.dropWhile (·.value != '\n'))).head? = some newline := by
      have stops := List.head?_dropWhile_not (·.value != '\n') body
      cases left : body.dropWhile (·.value != '\n') with
      | nil => exact .inl rfl
      | cons next others =>
        rw [left] at stops
        have newlineNext : next.value = '\n' := by simpa using stops
        refine .inr ?_
        rw [ofGlyphs, List.flatMap_cons, bytes_of_newline newlineNext]
        rfl
    have shown := Layout.comment line ends .none
    rwa [List.append_nil] at shown

/-- A token that is cut off spells its bytes. A token of characters has the bytes that it covers
for its lexeme. A stray byte is a token of its own, spelled by the replacement character. -/
theorem Piece.Cut.spells {text : Text} {front rest : List Glyph} {first : Glyph}
    {kind : Token.Kind} {length : Nat} (reads : text.glyphs = front ++ first :: rest)
    (decided : Cut first rest (some kind) length) :
    Token.Spells text (ofGlyphs front).length
      (ofGlyphs (front ++ first :: rest.take length)).length kind
      (lexeme ⟨some kind, first :: rest.take length⟩) := by
  have behind := drop_of_reads reads
  unfold Token.Spells
  cases first with
  | char c =>
    have found : firstChar? (text.drop (ofGlyphs front).length) = some c := by
      rw [behind]
      exact firstChar?_ofChar c (ofGlyphs rest)
    have bytes : text = ofGlyphs front ++ ofGlyphs (.char c :: rest.take length) ++
        ofGlyphs (rest.drop length) := by
      rw [List.append_assoc, ← ofGlyphs_append, List.cons_append, List.take_append_drop]
      exact bytes_of_reads reads
    rw [found, if_neg (Option.some_ne_none c), ofGlyphs_append, slice_between bytes]
    exact lexeme_eq_ofGlyphs decided.whole
  | stray byte =>
    have stray : firstChar? (text.drop (ofGlyphs front).length) = none := by
      rw [behind]
      exact firstChar?_of_stray (glyphs_of_behind reads)
    obtain ⟨same, rfl⟩ := decided.stray
    rw [stray, if_pos rfl, ofGlyphs_append, List.length_append]
    exact ⟨Option.some.inj same, rfl, rfl⟩

/-- The tokens placed from the glyphs behind some of a text are those from its offset on.

Proof: induction over the pieces that are left. A piece that is layout
widens the gap before the tokens behind it, and any other is the next token. -/
theorem Scanned.place {text : Text} {front back : List Glyph}
    (reads : text.glyphs = front ++ back) :
    Scanned text (ofGlyphs front).length
      (Token.place (Position.start.after front) (Piece.cut back)) := by
  induction back using Piece.cut_induction generalizing front with
  | nothing =>
    rw [List.append_nil] at reads
    have whole : ofGlyphs front = text := by rw [← reads, glyphs_bytes]
    have place := Position.after_start_eq_recount (reads.trans (List.append_nil front).symm)
    rw [Piece.cut, Token.place, place, whole]
    refine .ended ?_
    rw [List.drop_length]
    exact .none
  | piece first rest kind length decided pieces later =>
    have split : first :: rest = (first :: rest.take length) ++ rest.drop length := by
      rw [List.cons_append, List.take_append_drop]
    have further : text.glyphs = (front ++ first :: rest.take length) ++ rest.drop length := by
      rw [List.append_assoc, ← split, reads]
    have behind := later further
    have covers : (ofGlyphs front).length <
        (ofGlyphs (front ++ first :: rest.take length)).length := by
      rw [ofGlyphs_append, List.length_append]
      refine Nat.lt_add_of_pos_right (List.length_pos_iff.mpr fun empty => ?_)
      exact first.bytes_ne_nil (List.append_eq_nil_iff.mp empty).1
    rw [pieces, Token.place, ← Position.after_append]
    cases kind with
    | none =>
      refine .widen (Nat.le_of_lt covers) ?_ behind
      have layout := decided.layout reads
      have bytes := bytes_of_reads further
      rw [drop_of_reads further, ofGlyphs_append]
      rw [ofGlyphs_append] at bytes
      rwa [slice_between bytes]
    | some kind =>
      have bounded : (ofGlyphs (front ++ first :: rest.take length)).length ≤ text.length := by
        rw [congrArg List.length (bytes_of_reads further), List.length_append]
        exact Nat.le_add_right _ _
      have gap : Layout (text.drop (ofGlyphs front).length)
          (text.slice (ofGlyphs front).length (ofGlyphs front).length) := by
        rw [slice, Nat.sub_self, List.take_zero]
        exact .none
      have shown := decided.spells reads
      rw [Position.after_start_eq_recount further] at behind ⊢
      rw [Position.after_start_eq_recount reads]
      exact .token (Nat.le_refl _) covers bounded gap decided.ne_endOfInput shown behind

/-- There is one diagnostic for every illegal token, in order and at its place. -/
theorem Token.problems_eq (tokens : List Token) :
    problems tokens = (tokens.filter fun token => token.kind = .illegal).map fun token =>
      (Problem.unexpectedCharacter token.lexeme).diagnostic token.span := by
  induction tokens with
  | nil => rfl
  | cons token rest others =>
    rw [problems] at others
    by_cases illegal : token.kind = .illegal <;> simp [problems, illegal, others]

/-- The tokens of a text account for all of its bytes, at exact positions, and every
illegal one has its diagnostic. -/
theorem Token.ofText_lossless (text : Text) :
    Scanned text 0 (ofText text) ∧
      (problems (ofText text)).map (fun problem => (problem.code, problem.span)) =
        ((ofText text).filter fun token => token.kind = .illegal).map fun token =>
          (Text.ofString "E1001", token.span) := by
  constructor
  · exact @Scanned.place text [] text.glyphs rfl
  · rw [problems_eq, List.map_map]
    rfl

end Astro
