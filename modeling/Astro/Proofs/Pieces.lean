import Astro.Proofs.Glyphs
import Astro.Token.Scan
import Mathlib.Data.List.TakeWhile

/-!
# How a text is cut into pieces

The kind of a piece and its length are decided together by its first glyph and
those behind it. There are six cases (`Piece.Cut`), and everything else about
pieces follows from them: which glyphs a piece can hold, that stray bytes stand
alone, and that no piece reaches over the end of a line, so that a text may be
cut at a newline before it is cut into pieces.
-/

namespace Astro

/-- A code point in one of some ranges lies between the ends of a range. -/
theorem Text.exists_range_of_inRanges {ranges : List (Nat × Nat)} {code : Nat}
    (inside : inRanges ranges code = true) : ∃ range ∈ ranges, range.1 ≤ code ∧ code ≤ range.2 := by
  induction ranges with
  | nil => cases inside
  | cons first rest others =>
    obtain ⟨low, high⟩ := first
    rw [inRanges] at inside
    split at inside
    · cases inside
    · split at inside
      · exact ⟨_, List.mem_cons_self, by omega, by omega⟩
      · obtain ⟨range, member, between⟩ := others inside
        exact ⟨range, List.mem_cons_of_mem _ member, between⟩

namespace Piece

/-- What a glyph and those behind it decide: the kind of the piece that it starts
and how many more glyphs belong to it. -/
inductive Cut (first : Glyph) (rest : List Glyph) : Option Token.Kind → Nat → Prop where
  | blank (white : Text.isBlankGlyph first = true) : Cut first rest none 0
  | comment (slash : first.value = '/') (again : startsWith '/' rest = true) :
      Cut first rest none (countWhile (·.value != '\n') rest)
  | number (digit : isDigit first = true) : Cut first rest (some .number) (numeralLength rest)
  | word (starts : startsWord first = true) :
      Cut first rest
        (some (.ofWord (Text.ofGlyphs (first :: rest.take (countWhile continuesWord rest)))))
        (countWhile continuesWord rest)
  | power (star : first.value = '*') (again : startsWith '*' rest = true) :
      Cut first rest (some .power) 1
  | symbol (noBlank : Text.isBlankGlyph first = false)
      (noComment : ¬ (first.value = '/' ∧ startsWith '/' rest = true))
      (noDigit : isDigit first = false) (noWord : startsWord first = false) :
      Cut first rest (some ((Token.Kind.ofSymbol? first.value).getD .illegal)) 0

/-- The first glyph of a piece and those behind it decide its kind and its length. The tests are
made one after another, and each rule says that its own test has succeeded and, where that
matters, that those before it have not. -/
theorem isCut (first : Glyph) (rest : List Glyph) :
    Cut first rest (kindAt first rest) (extent first rest) := by
  unfold kindAt extent
  by_cases white : Text.isBlankGlyph first = true
  · simp only [white, ↓reduceIte]
    exact .blank white
  by_cases comment : first.value = '/' ∧ startsWith '/' rest = true
  · simp only [white, comment, and_self, ↓reduceIte]
    exact .comment comment.1 comment.2
  by_cases digit : isDigit first = true
  · simp only [white, comment, digit, ↓reduceIte]
    exact .number digit
  by_cases starts : startsWord first = true
  · simp only [white, comment, digit, starts, ↓reduceIte]
    exact .word starts
  by_cases power : first.value = '*' ∧ startsWith '*' rest = true
  · simp only [white, digit, starts, power, and_self, ↓reduceIte]
    exact .power power.1 power.2
  · simp only [white, comment, digit, starts, power, ↓reduceIte]
    exact .symbol (by simpa using white) comment (by simpa using digit) (by simpa using starts)

/-- A piece is layout when it starts with white space or with the mark of a comment. -/
theorem kindAt_eq_none_iff {first : Glyph} {rest : List Glyph} :
    kindAt first rest = none ↔
      Text.isBlankGlyph first = true ∨ first.value = '/' ∧ startsWith '/' rest = true := by
  unfold kindAt
  by_cases white : Text.isBlankGlyph first = true
  · simp [white]
  by_cases comment : first.value = '/' ∧ startsWith '/' rest = true
  · simp [white, comment]
  · rw [if_neg white, if_neg comment]
    refine iff_of_false ?_ (not_or.mpr ⟨white, comment⟩)
    repeat' split
    all_goals exact Option.some_ne_none _

/-- Pieces are cut off one after another: the first has the kind and the length that its first
glyph decides, and the others are the pieces of what is left. -/
theorem exists_cut (first : Glyph) (rest : List Glyph) :
    ∃ kind length, Cut first rest kind length ∧
      cut (first :: rest) = ⟨kind, first :: rest.take length⟩ :: cut (rest.drop length) := by
  refine ⟨_, _, isCut first rest, ?_⟩
  rw [cut]

/-- What holds of no glyphs, and before a piece whenever it holds behind it, holds of all
glyphs. -/
theorem cut_induction {holds : List Glyph → Prop} (nothing : holds [])
    (piece : ∀ first rest kind length, Cut first rest kind length →
      cut (first :: rest) = ⟨kind, first :: rest.take length⟩ :: cut (rest.drop length) →
      holds (rest.drop length) → holds (first :: rest))
    (glyphs : List Glyph) : holds glyphs := by
  induction size : glyphs.length using Nat.strongRecOn generalizing glyphs with
  | ind count fewer =>
    cases glyphs with
    | nil => exact nothing
    | cons first rest =>
      obtain ⟨kind, length, decided, pieces⟩ := exists_cut first rest
      have shorter : (rest.drop length).length < count := by
        rw [← size, List.length_drop, List.length_cons]
        omega
      exact piece first rest kind length decided pieces (fewer _ shorter _ rfl)

/-- Each piece of a list of glyphs is cut off somewhere. -/
theorem exists_cut_of_mem {glyphs : List Glyph} {piece : Piece} (member : piece ∈ cut glyphs) :
    ∃ first rest length, Cut first rest piece.kind length ∧
      piece.glyphs = first :: rest.take length := by
  induction glyphs using cut_induction with
  | nothing =>
    rw [cut] at member
    cases member
  | piece first rest kind length decided pieces behind =>
    rw [pieces] at member
    rcases List.mem_cons.mp member with rfl | later
    · exact ⟨first, rest, length, decided, rfl⟩
    · exact behind later

/-- A glyph that is spelled as it stands, which a stray byte is not. -/
def Whole (glyph : Glyph) : Prop := glyph.bytes = Text.ofChar glyph.value

/-- A piece of whole glyphs is spelled as it stands. -/
theorem lexeme_eq_ofGlyphs {piece : Piece} (whole : ∀ glyph ∈ piece.glyphs, Whole glyph) :
    piece.lexeme = Text.ofGlyphs piece.glyphs := by
  rw [lexeme, Text.ofChars, List.flatMap_map, Text.ofGlyphs, List.flatMap_def, List.flatMap_def]
  exact congrArg List.flatten (List.map_congr_left fun glyph member => (whole glyph member).symm)

/-- A stray byte starts no word, because U+FFFD is no letter. -/
theorem startsWord_stray (byte : UInt8) : startsWord (.stray byte) = false := by
  change Text.isLetter '\uFFFD' = false
  decide +kernel

/-- A stray byte is a piece by itself, and it is illegal. -/
theorem Cut.stray {byte : UInt8} {rest : List Glyph} {kind : Option Token.Kind} {length : Nat}
    (decided : Cut (.stray byte) rest kind length) : kind = some .illegal ∧ length = 0 := by
  cases decided with
  | blank white => simp [Text.isBlankGlyph_stray] at white
  | comment slash again => simp [Glyph.value, Glyph.replacement] at slash
  | number digit => simp [isDigit, Glyph.value, Glyph.replacement] at digit
  | word starts => simp [startsWord_stray] at starts
  | power star again => simp [Glyph.value, Glyph.replacement] at star
  | symbol noBlank noComment noDigit noWord => exact ⟨rfl, rfl⟩

/-- The end of the input is no piece. Its token is added behind all of them. -/
theorem Cut.ne_endOfInput {first : Glyph} {rest : List Glyph} {kind : Token.Kind} {length : Nat}
    (decided : Cut first rest (some kind) length) : kind ≠ .endOfInput := by
  cases decided with
  | number digit => decide
  | word starts =>
    unfold Token.Kind.ofWord
    split <;> decide
  | power star again => decide
  | symbol noBlank noComment noDigit noWord =>
    unfold Token.Kind.ofSymbol?
    split <;> decide

/-- As many glyphs as are counted in a class are the longest beginning in it. -/
theorem take_countWhile (accepts : Glyph → Bool) (glyphs : List Glyph) :
    glyphs.take (countWhile accepts glyphs) = glyphs.takeWhile accepts :=
  (List.prefix_iff_eq_take.mp (List.takeWhile_prefix accepts)).symm

/-- What is not counted in a class is what stands behind its longest beginning. -/
theorem drop_countWhile (accepts : Glyph → Bool) (glyphs : List Glyph) :
    glyphs.drop (countWhile accepts glyphs) = glyphs.dropWhile accepts := by
  have whole : glyphs.takeWhile accepts ++ glyphs.dropWhile accepts = glyphs :=
    List.takeWhile_append_dropWhile
  rw [countWhile]
  conv => lhs; arg 2; rw [← whole]
  exact List.drop_left

/-- Counting over a stretch in a class goes as far as the stretch. -/
theorem countWhile_append {accepts : Glyph → Bool} {body rest : List Glyph}
    (inside : ∀ glyph ∈ body, accepts glyph = true) :
    countWhile accepts (body ++ rest) = body.length + countWhile accepts rest := by
  rw [countWhile, List.takeWhile_append_of_pos inside, List.length_append, countWhile]

/-- A list that goes on with a character other than U+FFFD starts with a whole glyph. -/
theorem exists_of_startsWith {c : Char} {glyphs : List Glyph} (starts : startsWith c glyphs = true)
    (known : c ≠ Glyph.replacement) : ∃ rest, glyphs = .char c :: rest := by
  cases glyphs with
  | nil => simp [startsWith] at starts
  | cons first rest =>
    have same : first.value = c := by simpa [startsWith] using starts
    exact ⟨rest, by rw [Glyph.eq_char same known]⟩

/-- Whether a glyph can stand behind the first one of a token. -/
def isInner (glyph : Glyph) : Bool := continuesWord glyph || ['.', '+', '-', '*'].contains glyph.value

/-- A number of glyphs at the front of a list that can stand inside a token. -/
def InnerUpTo (length : Nat) (glyphs : List Glyph) : Prop :=
  ∀ glyph ∈ glyphs.take length, isInner glyph = true

/-- No glyphs at all can stand inside a token. -/
theorem innerUpTo_zero (glyphs : List Glyph) : InnerUpTo 0 glyphs := fun _ member => by cases member

/-- If some glyphs can stand inside a token and more of them behind these, then all of them can. -/
theorem InnerUpTo.add {first second : Nat} {glyphs : List Glyph} (front : InnerUpTo first glyphs)
    (behind : InnerUpTo second (glyphs.drop first)) : InnerUpTo (first + second) glyphs := by
  intro glyph member
  rw [List.take_add] at member
  exact (List.mem_append.mp member).elim (front glyph) (behind glyph)

/-- If a glyph can stand inside a token and some of those behind it can, then these can together. -/
theorem InnerUpTo.one_add {first : Glyph} {rest : List Glyph} {length : Nat}
    (inner : isInner first = true) (behind : InnerUpTo length rest) :
    InnerUpTo (1 + length) (first :: rest) := by
  refine InnerUpTo.add (fun glyph member => ?_) behind
  rwa [List.mem_singleton.mp member]

/-- All glyphs that are counted in a class can stand inside a token, if those of the class can. -/
theorem innerUpTo_countWhile {accepts : Glyph → Bool}
    (inner : ∀ glyph, accepts glyph = true → isInner glyph = true) (glyphs : List Glyph) :
    InnerUpTo (countWhile accepts glyphs) glyphs := by
  intro glyph member
  rw [take_countWhile] at member
  exact inner glyph (List.mem_takeWhile_imp member)

/-- Digits can stand inside a token. They are part of numerals, and words may go on with them. -/
theorem isInner_of_isDigit (glyph : Glyph) (digit : isDigit glyph = true) : isInner glyph = true := by
  simp [isInner, continuesWord, digit]

/-- Whatever goes on with a word can stand inside a token. -/
theorem isInner_of_continuesWord (glyph : Glyph) (continues : continuesWord glyph = true) :
    isInner glyph = true := by
  simp [isInner, continues]

/-- A fraction can stand inside a token, with its point and its digits. -/
theorem innerUpTo_fraction (glyphs : List Glyph) : InnerUpTo (fractionLength glyphs) glyphs := by
  simp only [fractionLength]
  split
  · next point =>
    obtain ⟨rest, rfl⟩ := exists_of_startsWith point.1 (by decide)
    exact (innerUpTo_countWhile isInner_of_isDigit rest).one_add (by decide +kernel)
  · exact innerUpTo_zero glyphs

/-- The sign of an exponent can stand inside a token. That it is no punctuation there is decided
by what is around it. -/
theorem innerUpTo_sign (glyphs : List Glyph) : InnerUpTo (signLength glyphs) glyphs := by
  unfold signLength
  split
  · next sign =>
    rcases sign with plus | minus
    · obtain ⟨rest, rfl⟩ := exists_of_startsWith plus (by decide)
      exact (innerUpTo_zero rest).one_add (by decide +kernel)
    · obtain ⟨rest, rfl⟩ := exists_of_startsWith minus (by decide)
      exact (innerUpTo_zero rest).one_add (by decide +kernel)
  · exact innerUpTo_zero glyphs

/-- An exponent can stand inside a token, with its mark, its sign and its digits. A mark is a
letter, and a sign and digits may stand inside a numeral. -/
theorem innerUpTo_exponent (glyphs : List Glyph) : InnerUpTo (exponentLength glyphs) glyphs := by
  simp only [exponentLength]
  split
  · next mark =>
    obtain ⟨first, rest, rfl, inner⟩ :
        ∃ first rest, glyphs = first :: rest ∧ isInner first = true := by
      rcases mark.1 with small | large
      · obtain ⟨rest, rfl⟩ := exists_of_startsWith small (by decide)
        exact ⟨_, rest, rfl, by decide +kernel⟩
      · obtain ⟨rest, rfl⟩ := exists_of_startsWith large (by decide)
        exact ⟨_, rest, rfl, by decide +kernel⟩
    have digits := innerUpTo_countWhile isInner_of_isDigit (rest.drop (signLength rest))
    have behind := ((innerUpTo_sign rest).add digits).one_add inner
    rw [← Nat.add_assoc] at behind
    rwa [List.drop_one, List.tail_cons, Nat.add_comm 1 (signLength rest), List.drop_succ_cons,
      Nat.add_comm (signLength rest) 1]
  · exact innerUpTo_zero glyphs

/-- All that a numeral takes behind its first digit can stand inside a token. -/
theorem innerUpTo_numeral (glyphs : List Glyph) : InnerUpTo (numeralLength glyphs) glyphs := by
  refine InnerUpTo.add (InnerUpTo.add ?_ ?_) ?_
  · exact innerUpTo_countWhile isInner_of_isDigit glyphs
  · exact innerUpTo_fraction _
  · exact innerUpTo_exponent _

/-- Only some glyphs can stand behind the first one of a token. White space, the mark of a comment
and most punctuation are not among them. -/
theorem Cut.inner {first : Glyph} {rest : List Glyph} {kind : Token.Kind} {length : Nat}
    (decided : Cut first rest (some kind) length) : InnerUpTo length rest := by
  cases decided with
  | number digit => exact innerUpTo_numeral rest
  | word starts => exact innerUpTo_countWhile isInner_of_continuesWord rest
  | power star again =>
    obtain ⟨more, rfl⟩ := exists_of_startsWith again (by decide)
    exact (innerUpTo_zero more).one_add (by decide +kernel)
  | symbol noBlank noComment noDigit noWord => exact innerUpTo_zero rest

/-- A stray byte cannot stand inside a token, whatever is around it. -/
theorem isInner_stray (byte : UInt8) : isInner (.stray byte) = false := by
  have noLetter := startsWord_stray byte
  simp [isInner, continuesWord, noLetter, isDigit, Glyph.value, Glyph.replacement]

/-- White space cannot stand inside a token. So it always keeps two tokens apart. -/
theorem isInner_of_isBlankGlyph {glyph : Glyph} (white : Text.isBlankGlyph glyph = true) :
    isInner glyph = false := by
  cases glyph with
  | stray byte => exact isInner_stray byte
  | char c =>
    have code : Text.inRanges Text.blankRanges c.toNat = true := white
    obtain ⟨range, member, low, high⟩ := Text.exists_range_of_inRanges code
    have none : ∀ range ∈ Text.blankRanges, ∀ above ≤ range.2 - range.1,
        isInner (.char (Char.ofNat (range.1 + above))) = false := by
      decide +kernel
    have shown := none range member (c.toNat - range.1) (by omega)
    rwa [show range.1 + (c.toNat - range.1) = c.toNat by omega, Char.ofNat_toNat] at shown

/-- A piece that starts with a character and is no layout has whole glyphs only. -/
theorem Cut.whole {c : Char} {rest : List Glyph} {kind : Token.Kind} {length : Nat}
    (decided : Cut (.char c) rest (some kind) length) :
    ∀ glyph ∈ .char c :: rest.take length, Whole glyph := by
  refine List.forall_mem_cons.mpr ⟨rfl, ?_⟩
  intro glyph member
  cases glyph with
  | char found => rfl
  | stray byte =>
    have inner := decided.inner _ member
    rw [isInner_stray] at inner
    cases inner

end Piece

end Astro
