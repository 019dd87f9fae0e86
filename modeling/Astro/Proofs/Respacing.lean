import Astro.Proofs.LongestMatch
import Astro.Proofs.Recovery

/-!
# Layout does not matter

The words of a text can be set anew, with any white space and any comments before, between
and behind them, and the new text has the same words and is read as the same program. It
may not matter what stood behind a word before: where white space follows, or nothing, the
word ends where it did (`Piece.Cut.reread`), and spacing holds no word of its own.

A comment is not allowed to stand right behind a word, since a slash would become a part of
it. What is in a comment need not be well-formed.
-/

namespace Astro

namespace Text

/-- White space and comments, each of them with the newline that ends it. -/
inductive Spacing : Text → Prop where
  | nothing : Spacing []
  | blank {c : Char} {rest : Text} (white : isBlank c = true) (behind : Spacing rest) :
      Spacing (ofChar c ++ rest)
  | comment {body rest : Text} (line : newline ∉ body) (behind : Spacing rest) :
      Spacing (ofString "//" ++ (body ++ newline :: rest))

/-- Spacing that may stand behind a word: when there is any, it starts with white space. -/
structure Gap (text : Text) : Prop where
  spacing : text.Spacing
  apart : text ≠ [] → ∃ c rest, text = ofChar c ++ rest ∧ isBlank c = true

/-- Words set one behind another, each with a gap behind it, which only the last word can
do without. -/
inductive Spaced : List Text → Text → Prop where
  | nothing : Spaced [] []
  | last {word gap : Text} (gapped : gap.Gap) : Spaced [word] (word ++ gap)
  | more {word gap text : Text} {words : List Text} (gapped : gap.Gap) (some : gap ≠ [])
      (behind : Spaced words text) : Spaced (word :: words) (word ++ (gap ++ text))

end Text

namespace Piece

open Text Numeral

/-! ### How far a word reaches -/

/-- What is counted in a class is there. -/
theorem countWhile_le (accepts : Glyph → Bool) (glyphs : List Glyph) :
    countWhile accepts glyphs ≤ glyphs.length :=
  (List.takeWhile_sublist accepts).length_le

/-- A numeral does not reach over the end of the glyphs. Its three parts are counted one behind
the other, each among the glyphs that the ones before have left. -/
theorem numeralLength_le (glyphs : List Glyph) : numeralLength glyphs ≤ glyphs.length := by
  have fraction (glyphs : List Glyph) : fractionLength glyphs ≤ glyphs.length := by
    have digits := countWhile_le isDigit (glyphs.drop 1)
    rw [List.length_drop] at digits
    simp only [fractionLength]
    split <;> omega
  have exponent (glyphs : List Glyph) : exponentLength glyphs ≤ glyphs.length := by
    have digits := countWhile_le isDigit (glyphs.drop (1 + signLength (glyphs.drop 1)))
    rw [List.length_drop] at digits
    simp only [exponentLength]
    split <;> omega
  have whole := countWhile_le isDigit glyphs
  have places := fraction (glyphs.drop (countWhile isDigit glyphs))
  have order := exponent (glyphs.drop (countWhile isDigit glyphs +
    fractionLength (glyphs.drop (countWhile isDigit glyphs))))
  rw [List.length_drop] at places order
  simp only [numeralLength]
  omega

/-- What can stand inside a token does not reach over glyphs the first of which cannot. Otherwise
the first of these glyphs would be among those reached, and so could stand inside a token. -/
theorem le_of_innerUpTo {length : Nat} {body tail : List Glyph}
    (inner : InnerUpTo length (body ++ tail)) (fits : length ≤ (body ++ tail).length)
    (stops : ∀ glyph ∈ tail.head?, isInner glyph = false) : length ≤ body.length := by
  cases tail with
  | nil => simpa using fits
  | cons first others =>
    by_contra beyond
    have member : first ∈ (body ++ first :: others).take length := by
      obtain ⟨more, rfl⟩ : ∃ more, length = body.length + (more + 1) :=
        ⟨length - body.length - 1, by omega⟩
      rw [List.take_length_add_append, List.take_succ_cons]
      exact List.mem_append_right body List.mem_cons_self
    have inside := inner first member
    rw [stops first rfl] at inside
    cases inside

/-- White space starts with none of the characters of tokens. -/
theorem startsWith_of_blank {c : Char} (visible : isBlankGlyph (.char c) = false)
    {tail : List Glyph}
    (stops : ∀ glyph ∈ tail.head?, isBlankGlyph glyph = true) : startsWith c tail = false := by
  cases tail with
  | nil => rfl
  | cons first others =>
    have white : isBlank first.value = true := stops first rfl
    simp only [startsWith, List.head?_cons, Option.any_some, beq_eq_false_iff_ne]
    intro same
    have blank : isBlankGlyph (.char c) = true := same ▸ white
    rw [visible] at blank
    cases blank

/-- No word goes on with white space. It is the first glyph, and counting stops there. -/
theorem countWhile_blank {tail : List Glyph}
    (stops : ∀ glyph ∈ tail.head?, isBlankGlyph glyph = true) :
    countWhile continuesWord tail = 0 := by
  have inner := innerUpTo_countWhile isInner_of_continuesWord tail
  exact Nat.le_zero.mp (@le_of_innerUpTo _ [] tail inner (countWhile_le _ _)
    fun glyph first => isInner_of_isBlankGlyph (stops glyph first))

/-- What can stand inside a token is characters only. A stray byte can stand in none. -/
theorem map_char_of_inner {glyphs : List Glyph} (inner : ∀ glyph ∈ glyphs, isInner glyph = true) :
    (glyphs.map Glyph.value).map .char = glyphs := by
  induction glyphs with
  | nil => rfl
  | cons first others behind =>
    obtain ⟨here, later⟩ := List.forall_mem_cons.mp inner
    rw [List.map_cons, List.map_cons, behind later]
    cases first with
    | char c => rfl
    | stray byte =>
      rw [isInner_stray] at here
      cases here

/-- What continues a numeral behind its first digit is more digits, perhaps a fraction, and
perhaps an exponent. -/
theorem exists_numeral_parts (rest : List Glyph) :
    ∃ digits places order, rest.take (numeralLength rest) = digits ++ (places ++ order) ∧
      (∀ c ∈ digits.map Glyph.value, c.isDigit = true) ∧ Fraction (places.map Glyph.value) ∧
      Exponent (order.map Glyph.value) := by
  refine ⟨rest.take (countWhile isDigit rest), _, _, ?_, ?_,
    fraction_of_take (rest.drop (countWhile isDigit rest)),
    exponent_of_take (rest.drop (countWhile isDigit rest +
      fractionLength (rest.drop (countWhile isDigit rest))))⟩
  · rw [numeralLength, List.take_add, List.take_add, List.append_assoc]
  · intro c member
    exact isDigit_of_take member

/-- The parts of a numeral are all taken again, whatever stands behind them. -/
theorem le_numeralLength_take (rest tail : List Glyph) :
    (rest.take (numeralLength rest)).length ≤
      numeralLength (rest.take (numeralLength rest) ++ tail) := by
  have inner : ∀ glyph ∈ rest.take (numeralLength rest), isInner glyph = true :=
    innerUpTo_numeral rest
  obtain ⟨digits, places, order, split, counted, fractional, scaled⟩ := exists_numeral_parts rest
  rw [split] at inner ⊢
  obtain ⟨inDigits, behind⟩ := List.forall_mem_append.mp inner
  obtain ⟨inPlaces, inOrder⟩ := List.forall_mem_append.mp behind
  have reach := le_numeralLength counted fractional scaled tail
  rw [map_char_of_inner inDigits, map_char_of_inner inPlaces, map_char_of_inner inOrder] at reach
  simp only [List.length_map] at reach
  simp only [List.append_assoc, List.length_append]
  omega

/-- A numeral before white space ends where it did.

Proof: the scanner takes all its parts again, and it takes no white space. -/
theorem numeralLength_reread (rest : List Glyph) {tail : List Glyph}
    (stops : ∀ glyph ∈ tail.head?, isBlankGlyph glyph = true) :
    numeralLength (rest.take (numeralLength rest) ++ tail) =
      (rest.take (numeralLength rest)).length := by
  refine Nat.le_antisymm ?_ (le_numeralLength_take rest tail)
  exact le_of_innerUpTo (innerUpTo_numeral _) (numeralLength_le _)
    fun glyph first => isInner_of_isBlankGlyph (stops glyph first)

section Reread

variable {c : Char} {rest tail : List Glyph} {kind : Token.Kind} {length : Nat}

/-- A token before white space is no layout. White space starts no token, and what starts a token
is no white space. A slash is a token only where no second one follows, and white space is none. -/
theorem Cut.kindAt_ne_none (decided : Cut (.char c) rest (some kind) length)
    (stops : ∀ glyph ∈ tail.head?, isBlankGlyph glyph = true) :
    kindAt (.char c) (rest.take length ++ tail) ≠ none := by
  have outer {glyph : Glyph} (inner : isInner glyph = true) : isBlankGlyph glyph = false := by
    by_contra white
    rw [isInner_of_isBlankGlyph (by simpa using white)] at inner
    cases inner
  have slash := @symbol_other '/' .slash (by decide)
  rw [Ne, kindAt_eq_none_iff]
  rintro (white | ⟨same, again⟩)
  · cases decided with
    | number digit => simp [outer (isInner_of_isDigit _ digit)] at white
    | word starts =>
      have continues : continuesWord (.char c) = true := by simp [continuesWord, starts]
      simp [outer (isInner_of_continuesWord _ continues)] at white
    | power star again =>
      obtain rfl : c = '*' := star
      cases white
    | symbol noBlank noComment noDigit noWord => simp [noBlank] at white
  · obtain rfl : c = '/' := same
    cases decided with
    | number digit => simp [slash.1] at digit
    | word starts => simp [slash.2] at starts
    | power star again => cases star
    | symbol noBlank noComment noDigit noWord =>
      rw [List.take_zero, List.nil_append, startsWith_of_blank noBlank stops] at again
      cases again

/-- A token before white space, or at the end, is the token that it was.

Proof: by what the token is. A numeral and a word end where the white space starts, since neither
holds any. Two stars are one token before anything, and a symbol stays alone, as white space is no
second star. -/
theorem Cut.reread (decided : Cut (.char c) rest (some kind) length)
    (stops : ∀ glyph ∈ tail.head?, isBlankGlyph glyph = true) :
    kindAt (.char c) (rest.take length ++ tail) = some kind ∧
      extent (.char c) (rest.take length ++ tail) = (rest.take length).length := by
  obtain ⟨found, again⟩ := Option.ne_none_iff_exists'.mp (decided.kindAt_ne_none stops)
  have meant := meant_of_kindAt again
  rw [again, Option.some.injEq]
  cases decided with
  | number digit =>
    obtain ⟨kind, extent⟩ := meant.of_digit digit
    rw [numeralLength_reread rest stops] at extent
    exact ⟨kind, extent⟩
  | word starts =>
    obtain ⟨kind, extent⟩ := meant.of_letter starts
    have inside : ∀ glyph ∈ rest.take (countWhile continuesWord rest),
        continuesWord glyph = true := by
      rw [take_countWhile]
      intro glyph member
      exact List.mem_takeWhile_imp member
    have reach := @countWhile_append continuesWord _ tail inside
    rw [countWhile_blank stops, Nat.add_zero] at reach
    rw [reach, List.take_left] at kind
    rw [reach] at extent
    exact ⟨kind, extent⟩
  | power star stars =>
    obtain rfl : c = '*' := star
    obtain ⟨others, rfl⟩ := exists_of_startsWith stars (by decide)
    exact meant.of_stars
  | symbol noBlank noComment noDigit noWord =>
    refine meant.of_other noDigit noWord ?_
    rintro ⟨rfl, power⟩
    rw [List.take_zero, List.nil_append, startsWith_of_blank noBlank stops] at power
    cases power

end Reread

/-! ### Words and spacing -/

/-- The kinds and spellings of the tokens among pieces. -/
def words (pieces : List Piece) : List (Token.Kind × Text) :=
  pieces.filterMap fun piece => piece.kind.map fun kind => (kind, piece.lexeme)

/-- White space holds no word. -/
theorem words_blank {first : Glyph} (white : isBlankGlyph first = true) (rest : List Glyph) :
    words (cut (first :: rest)) = words (cut rest) := by
  rw [cut, kindAt, extent, if_pos white, if_pos white]
  rfl

/-- A comment holds no word, and neither does the newline behind it. The comment ends before the
newline, which is a blank, and the words go on behind that. -/
theorem words_comment {body : List Glyph} (line : ∀ glyph ∈ body, glyph.value ≠ '\n')
    (rest : List Glyph) :
    words (cut (.char '/' :: .char '/' :: (body ++ .char '\n' :: rest))) = words (cut rest) := by
  have inside : ∀ glyph ∈ .char '/' :: body, (glyph.value != '\n') = true := by
    refine List.forall_mem_cons.mpr ⟨rfl, ?_⟩
    intro glyph member
    exact bne_iff_ne.mpr (line glyph member)
  have layout : kindAt (.char '/') (.char '/' :: (body ++ .char '\n' :: rest)) = none :=
    kindAt_eq_none_iff.mpr (.inr ⟨rfl, rfl⟩)
  have reach : extent (.char '/') (.char '/' :: (body ++ .char '\n' :: rest)) =
      (.char '/' :: body).length := by
    have ends : countWhile (·.value != '\n') (.char '\n' :: rest) = 0 := rfl
    have whole := @countWhile_append (·.value != '\n') _ (.char '\n' :: rest) inside
    rw [ends, Nat.add_zero] at whole
    exact whole
  rw [cut, layout, reach, ← List.cons_append, List.drop_left]
  exact words_blank rfl rest

/-- Spacing before a text holds no word.

Proof: induction on the spacing. A blank is a piece of its own, and a comment with its newline is
two, none of which is a word. -/
theorem words_spacing {spacing : Text} (spaced : spacing.Spacing) (text : Text) :
    words (cut (Text.glyphs (spacing ++ text))) = words (cut text.glyphs) := by
  induction spaced with
  | nothing => rfl
  | @blank c rest white _ others =>
    rw [List.append_assoc, glyphs_ofChar_append, @words_blank (.char c) white]
    exact others
  | @comment body rest line _ others =>
    have seam : Seam body (newline :: (rest ++ text)) := by
      right
      intro next first
      cases first
      decide
    have reads : Text.glyphs (ofString "//" ++ (body ++ newline :: rest) ++ text) =
        .char '/' :: .char '/' :: (body.glyphs ++ .char '\n' :: Text.glyphs (rest ++ text)) := by
      rw [List.append_assoc, ofString, glyphs_ofChars_append, List.append_assoc, List.cons_append,
        glyphs_append seam, glyphs_newline]
      rfl
    have plain : ∀ glyph ∈ body.glyphs, glyph.value ≠ '\n' := by
      intro glyph member ending
      exact line (newline_mem_iff.mpr (List.mem_map.mpr ⟨glyph, member, ending⟩))
    rw [reads, words_comment plain]
    exact others

/-- A word is read again wherever white space follows it, or nothing does. -/
def Rereads (word : Token.Kind × Text) : Prop :=
  ∀ tail : Text, (∀ glyph ∈ tail.glyphs.head?, isBlankGlyph glyph = true) →
    words (cut (Text.glyphs (word.2 ++ tail))) = word :: words (cut tail.glyphs)

/-- The spelling of a token that starts with a character is read again. -/
theorem Cut.rereads {c : Char} {rest : List Glyph} {kind : Token.Kind} {length : Nat}
    (decided : Cut (.char c) rest (some kind) length) :
    Rereads (kind, ofChars ((.char c :: rest.take length).map Glyph.value)) := by
  intro tail stops
  obtain ⟨again, reach⟩ := decided.reread stops
  have reads : Text.glyphs (ofChars ((.char c :: rest.take length).map Glyph.value) ++ tail) =
      .char c :: (rest.take length ++ tail.glyphs) := by
    rw [glyphs_ofChars_append, List.map_cons, List.map_cons, map_char_of_inner decided.inner]
    rfl
  rw [reads, cut, again, reach, List.take_left, List.drop_left]
  rfl

/-- Every word of a text is read again. A stray byte is spelled as U+FFFD, which is as illegal.

Proof: a word is the kind and the lexeme of a piece, which was cut off by one of the rules. The
same rule cuts it off its lexeme, if it is a character. A stray byte becomes the replacement
character, and that starts no token either. -/
theorem rereads_of_mem {glyphs : List Glyph} {word : Token.Kind × Text}
    (member : word ∈ words (cut glyphs)) : Rereads word := by
  obtain ⟨piece, among, shown⟩ := List.mem_filterMap.mp member
  obtain ⟨kind, sort, rfl⟩ := Option.map_eq_some_iff.mp shown
  obtain ⟨first, rest, length, decided, whole⟩ := exists_cut_of_mem among
  rw [sort] at decided
  rw [lexeme, whole]
  cases first with
  | char c => exact decided.rereads
  | stray byte =>
    obtain ⟨illegal, rfl⟩ := decided.stray
    cases illegal
    have shown : Cut (.char Glyph.replacement) [] (some .illegal) 0 := by
      refine .symbol ?_ ?_ ?_ ?_
      · decide +kernel
      · decide +kernel
      · decide +kernel
      · exact startsWord_stray 0
    exact shown.rereads

/-- White space behind a word is seen there. Its first character is read whatever stands behind
it. -/
theorem head_of_gap {gap : Text} (gapped : gap.Gap) (some : gap ≠ []) (text : Text) :
    ∀ glyph ∈ (Text.glyphs (gap ++ text)).head?, isBlankGlyph glyph = true := by
  obtain ⟨c, rest, rfl, white⟩ := gapped.apart some
  rw [List.append_assoc, glyphs_ofChar_append]
  intro glyph first
  cases first
  exact white

/-- Words that can be read again are the words of any text in which they are set.

Proof: induction on the words. Each is read up to the gap behind it, which starts with white space
or is the end, and the gap holds no word. -/
theorem words_spaced {entries : List (Token.Kind × Text)} {text : Text}
    (rereads : ∀ word ∈ entries, Rereads word) (spaced : Spaced (entries.map Prod.snd) text) :
    words (cut text.glyphs) = entries := by
  induction entries generalizing text with
  | nil =>
    cases spaced
    rw [Text.glyphs, cut]
    rfl
  | cons word others behind =>
    obtain ⟨here, later⟩ := List.forall_mem_cons.mp rereads
    rw [List.map_cons] at spaced
    generalize spelled : others.map Prod.snd = spellings at spaced
    cases spaced with
    | @last _ gap gapped =>
      obtain rfl : others = [] := List.map_eq_nil_iff.mp spelled
      have stops : ∀ glyph ∈ gap.glyphs.head?, isBlankGlyph glyph = true := by
        by_cases some : gap = []
        · subst some
          rw [Text.glyphs]
          intro glyph first
          cases first
        · have seen := head_of_gap gapped some []
          rwa [List.append_nil] at seen
      have nothing := words_spacing gapped.spacing []
      rw [List.append_nil, Text.glyphs, cut] at nothing
      rw [here gap stops, nothing]
      rfl
    | @more _ gap text _ gapped some remaining =>
      rw [here _ (head_of_gap gapped some text), words_spacing gapped.spacing,
        behind later (spelled ▸ remaining)]

end Piece

namespace Token

/-- The tokens of pieces are their words and the end of the input. -/
theorem map_place (start : Position) (pieces : List Piece) :
    (place start pieces).map (fun token => (token.kind, token.lexeme)) =
      Piece.words pieces ++ [(.endOfInput, [])] := by
  induction pieces generalizing start with
  | nil => rfl
  | cons piece rest others =>
    rw [place]
    cases sort : piece.kind with
    | none =>
      simp only [Piece.words, List.filterMap_cons, sort, Option.map_none]
      exact others _
    | some kind =>
      simp only [Piece.words, List.filterMap_cons, sort, Option.map_some]
      exact congrArg _ (others _)

/-- The tokens of a text before the end of the input are its words. -/
theorem map_beforeEnd (text : Text) :
    (beforeEnd (ofText text)).map (fun token => (token.kind, token.lexeme)) =
      Piece.words text.pieces := by
  obtain ⟨tokens, ending, going, ends, split⟩ := exists_ending text
  have atEnd : (next [ending]).kind = .endOfInput := ends
  have placed := map_place .start text.pieces
  rw [← ofText, split, List.map_append] at placed
  obtain ⟨said, -⟩ := List.append_inj' placed rfl
  rw [split, beforeEnd_append going, beforeEnd_of_ends atEnd, List.append_nil, said]

/-- Only the last token of a text ends the input. -/
theorem filter_going (text : Text) :
    (ofText text).filter (fun token => token.kind ≠ .endOfInput) = beforeEnd (ofText text) := by
  obtain ⟨tokens, ending, going, ends, split⟩ := exists_ending text
  have kept : tokens.filter (fun token => token.kind ≠ .endOfInput) = tokens := by
    apply List.filter_eq_self.mpr
    intro token member
    exact decide_eq_true (going token member)
  have dropped : [ending].filter (fun token => token.kind ≠ .endOfInput) = [] := by simp [ends]
  have atEnd : (next [ending]).kind = .endOfInput := ends
  rw [split, List.filter_append, kept, dropped, beforeEnd_append going, beforeEnd_of_ends atEnd]

/-- The tokens of a text that do not end the input are spelled as its words. -/
theorem map_lexeme_words (text : Text) :
    ((ofText text).filter fun token => token.kind ≠ .endOfInput).map Token.lexeme =
      (Piece.words text.pieces).map Prod.snd := by
  rw [filter_going, ← map_beforeEnd, List.map_map]
  rfl

/-- Tokens of the same kinds and spellings are the same but for their places. -/
theorem map_relocate_of_words {first second : List Token}
    (same : first.map (fun token => (token.kind, token.lexeme)) =
      second.map (fun token => (token.kind, token.lexeme))) :
    first.map (relocate fun _ => .nowhere) = second.map (relocate fun _ => .nowhere) := by
  have placed := congrArg (List.map fun word : Token.Kind × Text =>
    (⟨word.1, word.2, ⟨.nowhere, .nowhere⟩⟩ : Token)) same
  rw [List.map_map, List.map_map] at placed
  exact placed

/-- A text with some spacing and then the words of another one has tokens of the same kinds
and spellings. -/
theorem map_respaced {source spacing text : Text} (before : spacing.Spacing)
    (spaced : Text.Spaced
      (((ofText source).filter fun token => token.kind ≠ .endOfInput).map Token.lexeme) text) :
    (ofText (spacing ++ text)).map (fun token => (token.kind, token.lexeme)) =
      (ofText source).map (fun token => (token.kind, token.lexeme)) := by
  rw [map_lexeme_words] at spaced
  have rereads : ∀ word ∈ Piece.words source.pieces, Piece.Rereads word := by
    intro word member
    exact Piece.rereads_of_mem member
  rw [ofText, ofText, map_place, map_place, Text.pieces, Piece.words_spacing before,
    Piece.words_spaced rereads spaced]

end Token

/-- The same place everywhere is a regular move. It keeps nothing of the places, which is how
texts that differ in them are compared. -/
theorem regular_nowhere : Regular fun _ => .nowhere := by
  intro first second
  exact (Span.join_self ⟨.nowhere, .nowhere⟩).symm

namespace Program

/-- What moved tokens that end the input spell is what they spell, moved. -/
theorem ofTokens_relocate {move : Position → Position} (regular : Regular move)
    (dialect : Dialect) {tokens : List Token}
    (ends : ∃ token ∈ tokens, token.kind = .endOfInput) :
    (ofTokens dialect (tokens.map (Token.relocate move))).1.body =
        (ofTokens dialect tokens).1.body.map (Stmt.relocate move) ∧
      (ofTokens dialect (tokens.map (Token.relocate move))).2 =
        (ofTokens dialect tokens).2.map (Diagnostic.relocate move) := by
  have moved := Reading.statements_relocate regular dialect ends
  have first : Token.next (tokens.map (Token.relocate move)) =
      (Token.next tokens).relocate move := by
    cases tokens with
    | nil => simp at ends
    | cons first rest => rfl
  constructor
  · rw [body_ofTokens, body_ofTokens, moved, Reading.trees_relocate]
  · by_cases atEnd : (Token.next tokens).kind = .endOfInput
    · rw [ofTokens, ofTokens, first, if_pos atEnd, if_pos (by exact atEnd)]
      rfl
    · rw [diagnostics_ofTokens atEnd, diagnostics_ofTokens (by rw [first]; exact atEnd), moved,
        Reading.diagnostics_relocate]

/-- Tokens of the same kinds and spellings that end the input spell programs of the same
shape, and the same is wrong with them. -/
theorem ofTokens_alike (dialect : Dialect) {first second : List Token}
    (firstEnds : ∃ token ∈ first, token.kind = .endOfInput)
    (secondEnds : ∃ token ∈ second, token.kind = .endOfInput)
    (same : first.map (Token.relocate fun _ => .nowhere) =
      second.map (Token.relocate fun _ => .nowhere)) :
    (ofTokens dialect first).1.body.map Stmt.shape =
        (ofTokens dialect second).1.body.map Stmt.shape ∧
      (ofTokens dialect first).2.map (Diagnostic.relocate fun _ => .nowhere) =
        (ofTokens dialect second).2.map (Diagnostic.relocate fun _ => .nowhere) := by
  obtain ⟨firstBody, firstWrong⟩ := ofTokens_relocate regular_nowhere dialect firstEnds
  obtain ⟨secondBody, secondWrong⟩ := ofTokens_relocate regular_nowhere dialect secondEnds
  rw [same] at firstBody firstWrong
  exact ⟨firstBody.symm.trans secondBody, firstWrong.symm.trans secondWrong⟩

/-- What a text without illegal characters spells is what its tokens spell. -/
theorem ofText_of_legal (dialect : Dialect) {text : Text}
    (legal : Token.problems (Token.ofText text) = []) :
    ofText dialect text = (some (ofTokens dialect (Token.ofText text)).1,
      (ofTokens dialect (Token.ofText text)).2) := by
  rw [ofText, legal]

/-- Two texts are alike but for their layout: their tokens have the same kinds and
spellings, as many of them are illegal, and when none is, both texts spell programs of the
same shape, and the same is wrong with them. -/
structure Alike (first second : Text) : Prop where
  words : (Token.ofText second).map (fun token => (token.kind, token.lexeme)) =
    (Token.ofText first).map (fun token => (token.kind, token.lexeme))
  illegal : (Token.problems (Token.ofText second)).length =
    (Token.problems (Token.ofText first)).length
  programs : Token.problems (Token.ofText first) = [] → ∀ dialect, ∃ program other,
    (ofText dialect first).1 = some program ∧ (ofText dialect second).1 = some other ∧
    other.body.map Stmt.shape = program.body.map Stmt.shape ∧
    (ofText dialect second).2.map
        (fun problem => (problem.code, problem.message, problem.hint)) =
      (ofText dialect first).2.map
        (fun problem => (problem.code, problem.message, problem.hint))

/-- Layout does not matter: a text is like any other that has its words, set anew with white
space and comments. -/
theorem alike_respaced (source spacing text : Text) (before : spacing.Spacing)
    (spaced : Text.Spaced (((Token.ofText source).filter fun token =>
      token.kind ≠ .endOfInput).map Token.lexeme) text) : Alike source (spacing ++ text) := by
  have words := Token.map_respaced before spaced
  have same := Token.map_relocate_of_words words
  have illegal : (Token.problems (Token.ofText (spacing ++ text))).length =
      (Token.problems (Token.ofText source)).length := by
    have moved := congrArg Token.problems same
    rw [Token.problems_relocate, Token.problems_relocate] at moved
    simpa using congrArg List.length moved
  refine ⟨words, illegal, ?_⟩
  intro legal dialect
  have alsoLegal : Token.problems (Token.ofText (spacing ++ text)) = [] := by
    rw [legal] at illegal
    exact List.length_eq_zero_iff.mp illegal
  obtain ⟨body, wrong⟩ := ofTokens_alike dialect (Token.exists_endOfInput _)
    (Token.exists_endOfInput _) same
  rw [ofText_of_legal dialect legal, ofText_of_legal dialect alsoLegal]
  refine ⟨_, _, rfl, rfl, body, ?_⟩
  have told := congrArg (List.map fun problem : Diagnostic =>
    (problem.code, problem.message, problem.hint)) wrong
  rw [List.map_map, List.map_map] at told
  exact told

/-- A mark without digits stays apart from the numeral before it, and a comment may hold
any bytes. -/
theorem alike_respaced_unscaled :
    ∃ source spacing text : Text, source = Text.ofString "x=1e;" ∧
      spacing ++ text = Text.ofString "//" ++ [0xFF] ++ Text.ofString "\nx\t= 1 //\ne\n;" ∧
      spacing.Spacing ∧
      Text.Spaced (((Token.ofText source).filter fun token =>
        token.kind ≠ .endOfInput).map Token.lexeme) text ∧
      Alike source (spacing ++ text) := by
  have gap {c : Char} {rest : Text} (white : Text.isBlank c = true) (behind : rest.Spacing) :
      (Text.ofChar c ++ rest).Gap := ⟨.blank white behind, fun _ => ⟨c, rest, rfl, white⟩⟩
  have words : ((Token.ofText (Text.ofString "x=1e;")).filter fun token =>
      token.kind ≠ .endOfInput).map Token.lexeme = ["x", "=", "1", "e", ";"].map Text.ofString := by
    decide +kernel
  have lead : (Text.ofString "//" ++ ([0xFF] ++ Text.newline :: [])).Spacing :=
    .comment (by decide) .nothing
  have comment : (Text.ofString "//" ++ ([] ++ Text.newline :: [])).Spacing :=
    .comment (by decide) .nothing
  have spaced : Text.Spaced (["x", "=", "1", "e", ";"].map Text.ofString) _ :=
    .more (@gap '\t' _ rfl .nothing) (by decide)
      (.more (@gap ' ' _ rfl .nothing) (by decide)
        (.more (@gap ' ' _ rfl comment) (by decide)
          (.more (@gap '\n' _ rfl .nothing) (by decide)
            (.last ⟨.nothing, fun some => absurd rfl some⟩))))
  rw [← words] at spaced
  exact ⟨_, _, _, rfl, by decide +kernel, lead, spaced, alike_respaced _ _ _ lead spaced⟩

end Program

end Astro
