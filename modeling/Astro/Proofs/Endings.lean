import Astro.Command.Prompt
import Astro.Proofs.LineSeams
import Mathlib.Data.List.DropRight

/-!
# Where statements end

The prompt decides from the lines of a text whether its last word is a semicolon.
It drops comments and white space line by line, without cutting the text into
pieces. Here this is shown to agree with the pieces: what it drops is layout, and
the last glyph that it keeps is the last glyph of the last token. Stray bytes do
not matter, inside comments or outside.
-/

namespace Astro

namespace Piece

/-- Glyphs that are cut into layout only: white space, and comments that run up to a
newline or to the end. -/
inductive Quiet : List Glyph → Prop where
  | nothing : Quiet []
  | blank {glyph : Glyph} {rest : List Glyph} (white : Text.isBlankGlyph glyph = true)
      (behind : Quiet rest) : Quiet (glyph :: rest)
  | comment {body rest : List Glyph} (line : ∀ glyph ∈ body, glyph.value ≠ '\n')
      (ends : ∀ next ∈ rest.head?, next.value = '\n') (behind : Quiet rest) :
      Quiet (.char '/' :: .char '/' :: (body ++ rest))

/-- The kinds of the tokens among pieces. Layout has none, so that only tokens are left. -/
def kinds (pieces : List Piece) : List Token.Kind := pieces.filterMap Piece.kind

/-- Quiet glyphs hold no token.

Proof: induction on the ways in which glyphs are quiet. White space is a piece without a kind, and
so is a comment, which reaches to the end of its line. -/
theorem Quiet.kinds_cut {glyphs : List Glyph} (quiet : Quiet glyphs) : kinds (cut glyphs) = [] := by
  induction quiet with
  | nothing => simp [cut, kinds]
  | blank white _ others => simpa [cut, kindAt, extent, white, kinds] using others
  | @comment body rest line ends _ others =>
    have stops : countWhile (·.value != '\n') rest = 0 := by
      cases rest with
      | nil => rfl
      | cons next more =>
        have newline := ends next rfl
        simp [countWhile, newline]
    have inside : ∀ glyph ∈ .char '/' :: body, (glyph.value != '\n') = true := by
      refine List.forall_mem_cons.mpr ⟨rfl, fun glyph member => ?_⟩
      simpa using line glyph member
    have reach : extent (.char '/') (.char '/' :: (body ++ rest)) = body.length + 1 := by
      have counted := @countWhile_append _ (.char '/' :: body) rest inside
      rw [stops, Nat.add_zero, List.length_cons, List.cons_append] at counted
      exact counted
    have layout : kindAt (.char '/') (.char '/' :: (body ++ rest)) = none := rfl
    rw [cut, reach, layout, List.take_succ_cons, List.drop_succ_cons, List.drop_left]
    exact others

/-- Quiet glyphs start with nothing that can stand inside a token. -/
theorem Quiet.head {glyphs : List Glyph} (quiet : Quiet glyphs) :
    ∀ next ∈ glyphs.head?, isInner next = false := by
  intro next first
  cases quiet with
  | nothing => cases first
  | blank white behind =>
    cases first
    exact isInner_of_isBlankGlyph white
  | comment line ends behind =>
    cases first
    decide +kernel

/-- A semicolon is a piece by itself, and a token of its own kind. None of the other rules for
cutting a token off applies to it: it is not white space, no digit, no letter, and neither a slash
nor a star. -/
theorem Cut.of_semicolon {first : Glyph} {rest : List Glyph} {kind : Option Token.Kind}
    {length : Nat} (decided : Cut first rest kind length) (semicolon : first.value = ';') :
    kind = some .semicolon ∧ length = 0 := by
  cases decided with
  | blank white =>
    rw [Text.isBlankGlyph, semicolon] at white
    cases white
  | comment slash again =>
    rw [slash] at semicolon
    exact absurd semicolon (by decide)
  | number digit =>
    rw [isDigit, semicolon] at digit
    cases digit
  | word starts =>
    rw [startsWord, semicolon] at starts
    exact absurd starts (by decide +kernel)
  | power star again =>
    rw [star] at semicolon
    exact absurd semicolon (by decide)
  | symbol noBlank noComment noDigit noWord =>
    rw [semicolon]
    exact ⟨rfl, rfl⟩

/-- A token is a semicolon exactly when it starts with one. The converse of the last lemma:
whatever else starts a token gives it another kind. -/
theorem Cut.semicolon_iff {first : Glyph} {rest : List Glyph} {kind : Token.Kind} {length : Nat}
    (decided : Cut first rest (some kind) length) : kind = .semicolon ↔ first.value = ';' := by
  constructor
  · intro same
    cases decided with
    | number digit => cases same
    | word starts =>
      unfold Token.Kind.ofWord at same
      split at same <;> cases same
    | power star again => cases same
    | symbol noBlank noComment noDigit noWord =>
      unfold Token.Kind.ofSymbol? at same
      split at same <;> first | assumption | cases same
  · intro semicolon
    exact Option.some.inj (decided.of_semicolon semicolon).1

/-- Every comment that starts among some glyphs also ends among them. -/
def Spoken (glyphs : List Glyph) : Prop :=
  ∀ front body, glyphs = front ++ .char '/' :: .char '/' :: body →
    ∃ ending ∈ body, ending.value = '\n'

/-- What starts later is spoken too. -/
theorem Spoken.of_append {front back : List Glyph} (spoken : Spoken (front ++ back)) :
    Spoken back := by
  intro before body split
  refine spoken (front ++ before) body ?_
  rw [split, List.append_assoc]

/-- Quiet glyphs are behind what stands inside a token. They start with white space or a slash,
and so with nothing that a token could go on with. -/
theorem Quiet.drop_inner {tail : List Glyph} (quiet : Quiet tail) {length : Nat}
    (inner : InnerUpTo length tail) : tail.drop length = tail := by
  cases tail with
  | nil => exact List.drop_nil
  | cons next others =>
    cases length with
    | zero => rfl
    | succ more =>
      have inside := inner next List.mem_cons_self
      rw [quiet.head next rfl] at inside
      cases inside

/-- Counting stops at a glyph outside the class.

Proof: induction on the glyphs. The one outside the class is the first glyph, where counting stops
at once, or it is among the rest. -/
theorem countWhile_lt {accepts : Glyph → Bool} {glyphs : List Glyph} {stop : Glyph}
    (member : stop ∈ glyphs) (stops : accepts stop = false) (tail : List Glyph) :
    countWhile accepts (glyphs ++ tail) < glyphs.length := by
  induction glyphs with
  | nil => cases member
  | cons first rest others =>
    cases accepted : accepts first with
    | false => simp [countWhile, accepted]
    | true =>
      have later : stop ∈ rest := by
        rcases List.mem_cons.mp member with rfl | later
        · rw [accepted] at stops
          cases stops
        · exact later
      simpa [countWhile, accepted] using others later

/-- A comment that has ended does not reach the end of the glyphs. -/
theorem Spoken.comment_lt {first : Glyph} {glyphs : List Glyph} (spoken : Spoken (first :: glyphs))
    (slash : first.value = '/') (again : startsWith '/' glyphs = true) (tail : List Glyph) :
    countWhile (·.value != '\n') (glyphs ++ tail) < glyphs.length := by
  obtain ⟨body, rfl⟩ := exists_of_startsWith again (by decide)
  have start := Glyph.eq_char slash (by decide)
  obtain ⟨ending, member, ends⟩ := spoken [] body (by rw [start]; rfl)
  have stops : (ending.value != '\n') = false := by simp [ends]
  exact countWhile_lt (List.mem_cons_of_mem _ member) stops tail

/-- A piece that reaches a glyph that is no layout, with quiet glyphs behind it, is a
token that ends there. It is a semicolon exactly when the glyph is one. -/
theorem Cut.reaches {first last : Glyph} {before tail : List Glyph} {kind : Option Token.Kind}
    {length : Nat} (decided : Cut first (before ++ last :: tail) kind length)
    (spoken : Spoken (first :: before ++ [last])) (quiet : Quiet tail)
    (reached : before.length < length) :
    ∃ token, kind = some token ∧ (before ++ last :: tail).drop length = tail ∧
      (token = .semicolon ↔ last.value = ';') := by
  have split : before ++ last :: tail = (before ++ [last]) ++ tail := by simp
  have width : (before ++ [last]).length ≤ length := by
    rw [List.length_append]
    exact reached
  cases kind with
  | none =>
    exfalso
    cases decided with
    | blank white => exact absurd reached (Nat.not_lt_zero _)
    | comment slash again =>
      rw [split] at reached again
      have seen : startsWith '/' (before ++ [last]) = true := by
        cases before <;> exact again
      have short := spoken.comment_lt slash seen tail
      exact absurd reached (Nat.not_lt.mpr (Nat.le_of_lt_succ (by simpa using short)))
  | some token =>
    have inner := decided.inner
    have inside : last ∈ (before ++ last :: tail).take length := by
      rw [split, List.take_append, List.take_of_length_le width]
      simp
    refine ⟨token, rfl, ?_, ?_⟩
    · have behind : InnerUpTo (length - (before ++ [last]).length) tail := by
        intro glyph member
        refine inner glyph ?_
        rw [split, List.take_append]
        exact List.mem_append_right _ member
      rw [split, List.drop_append, List.drop_of_length_le width, List.nil_append,
        quiet.drop_inner behind]
    · constructor
      · intro semicolon
        have none := (decided.of_semicolon (decided.semicolon_iff.mp semicolon)).2
        rw [none] at reached
        exact absurd reached (Nat.not_lt_zero _)
      · intro semicolon
        have shown := inner last inside
        rw [isInner, continuesWord, startsWord, isDigit, semicolon] at shown
        exact absurd shown (by decide +kernel)

/-- The last glyph before quiet glyphs ends the last token, unless it is layout.

Proof: one piece after another. As long as the pieces stay before the glyph, it is
still to come; the first that reaches it is the last token. -/
theorem exists_last_kind {before tail : List Glyph} {last : Glyph}
    (shown : Text.isBlankGlyph last = false) (spoken : Spoken (before ++ [last]))
    (apart : ¬ (last.value = '/' ∧ startsWith '/' tail = true)) (quiet : Quiet tail) :
    ∃ earlier token, kinds (cut (before ++ last :: tail)) = earlier ++ [token] ∧
      (token = .semicolon ↔ last.value = ';') := by
  induction size : before.length using Nat.strongRecOn generalizing before with
  | ind count shorter =>
    cases before with
    | nil =>
      obtain ⟨kind, length, decided, pieces⟩ := exists_cut last tail
      cases kind with
      | none =>
        exfalso
        cases decided with
        | blank white => simp [shown] at white
        | comment slash again => exact apart ⟨slash, again⟩
      | some token =>
        refine ⟨[], token, ?_, decided.semicolon_iff⟩
        rw [List.nil_append, pieces, quiet.drop_inner decided.inner, kinds, List.filterMap_cons]
        exact congrArg _ quiet.kinds_cut
    | cons first before =>
      obtain ⟨kind, length, decided, pieces⟩ := exists_cut first (before ++ last :: tail)
      by_cases reached : before.length < length
      · obtain ⟨token, rfl, behind, semicolon⟩ := decided.reaches spoken quiet reached
        refine ⟨[], token, ?_, semicolon⟩
        rw [List.cons_append, pieces, behind, kinds, List.filterMap_cons]
        exact congrArg _ quiet.kinds_cut
      · have within : length ≤ before.length := Nat.le_of_not_lt reached
        have fewer : (before.drop length).length < count := by
          rw [← size, List.length_drop, List.length_cons]
          omega
        have later : Spoken (before.drop length ++ [last]) := by
          refine @Spoken.of_append (first :: before.take length) _ ?_
          rw [← List.append_assoc, List.cons_append, List.take_append_drop]
          exact spoken
        obtain ⟨earlier, token, same, semicolon⟩ := shorter _ fewer later rfl
        refine ⟨kind.toList ++ earlier, token, ?_, semicolon⟩
        rw [List.cons_append, pieces, List.drop_append_of_le_length within, kinds,
          List.filterMap_cons]
        rw [kinds] at same
        cases kind with
        | none => exact same
        | some found => exact congrArg _ same

end Piece

namespace Text

/-- A text is its first line and, behind a newline each, the others.

Proof: induction on the text. A newline ends an empty first line of what it starts, and any other
byte belongs to the first line of the rest. -/
theorem eq_of_lines {text first : Text} {others : List Text} (split : text.lines = first :: others) :
    text = first ++ others.flatMap (newline :: ·) := by
  induction text generalizing first others with
  | nil =>
    obtain ⟨rfl, rfl⟩ := List.cons.inj split
    rfl
  | cons byte rest shorter =>
    obtain ⟨line, more, behind⟩ := List.exists_cons_of_ne_nil (lines_ne_nil rest)
    have remaining := shorter behind
    rw [lines, behind] at split
    split at split
    · next ends =>
      obtain ⟨rfl, rfl⟩ := List.cons.inj split
      rw [ends, List.flatMap_cons, List.nil_append, List.cons_append, ← remaining]
    · obtain ⟨rfl, rfl⟩ := List.cons.inj split
      rw [List.cons_append, ← remaining]

/-- Lines hold no newline. A newline ends the line before it and belongs to none. -/
theorem newline_not_mem_of_mem_lines {text line : Text} (member : line ∈ text.lines) :
    newline ∉ line := by
  induction text generalizing line with
  | nil =>
    rw [List.mem_singleton.mp member]
    exact List.not_mem_nil
  | cons byte rest shorter =>
    obtain ⟨first, more, behind⟩ := List.exists_cons_of_ne_nil (lines_ne_nil rest)
    rw [lines, behind] at member
    rw [behind] at shorter
    split at member
    · rcases List.mem_cons.mp member with rfl | later
      · exact List.not_mem_nil
      · exact shorter later
    · next goes =>
      rcases List.mem_cons.mp member with rfl | later
      · intro inside
        rcases List.mem_cons.mp inside with same | within
        · exact goes same.symm
        · exact shorter List.mem_cons_self within
      · exact shorter (List.mem_cons_of_mem _ later)

/-- Before a line stands nothing, or the end of another line. -/
theorem exists_before_line {text line : Text} {earlier later : List Text}
    (split : text.lines = earlier ++ line :: later) :
    ∃ front, text = front ++ (line ++ later.flatMap (newline :: ·)) ∧
      (front = [] ∨ ∃ before, front = before ++ [newline]) := by
  cases earlier with
  | nil => exact ⟨[], eq_of_lines split, .inl rfl⟩
  | cons first more =>
    have whole := eq_of_lines split
    refine ⟨first ++ more.flatMap (newline :: ·) ++ [newline], ?_, .inr ⟨_, rfl⟩⟩
    rw [whole]
    simp

end Text

/-- Bytes in which no comment starts. Two slashes side by side always start one. -/
def Uncommented (bytes : Text) : Prop := ∀ front back, bytes ≠ front ++ 47 :: 47 :: back

/-- A comment takes two bytes to start. -/
theorem uncommented_of_length {bytes : Text} (short : bytes.length ≤ 1) : Uncommented bytes := by
  intro front back same
  have long := congrArg List.length same
  simp only [List.length_append, List.length_cons] at long
  omega

/-- A line is what is said on it and its comment, and the comment starts as early as it can.

Proof: induction on the search for two slashes. It steps over one byte at a time, so that two
slashes that are not a step's own stand in the rest. -/
theorem exists_comment (line : Text) :
    ∃ comment, line = withoutComment line ++ comment ∧
      (comment = [] ∨ ∃ body, comment = 47 :: 47 :: body) ∧
      Uncommented (withoutComment line ++ comment.take 1) := by
  fun_induction withoutComment line with
  | case1 => exact ⟨[], rfl, .inl rfl, uncommented_of_length (Nat.zero_le 1)⟩
  | case2 byte => exact ⟨[], rfl, .inl rfl, uncommented_of_length (Nat.le_refl 1)⟩
  | case3 first second rest mark =>
    obtain ⟨rfl, rfl⟩ := mark
    exact ⟨_, rfl, .inr ⟨rest, rfl⟩, uncommented_of_length (Nat.le_refl 1)⟩
  | case4 first second rest mark shorter =>
    obtain ⟨comment, split, form, none⟩ := shorter
    refine ⟨comment, by rw [List.cons_append, ← split], form, ?_⟩
    intro front back same
    cases front with
    | nil =>
      obtain ⟨rfl, behind⟩ := List.cons.inj (List.cons_append.symm.trans same)
      have seen : 47 :: back <+: second :: rest := by
        rw [split, ← behind]
        exact (List.prefix_append_right_inj _).mpr (List.take_prefix 1 comment)
      exact mark ⟨rfl, (List.cons_prefix_cons.mp seen).1.symm⟩
    | cons head front => exact none front back (List.cons.inj same).2

namespace Text

/-- Trimming takes white space off both ends, and all of it off the second. -/
theorem exists_trim (text : Text) :
    ∃ lead core trail, text.glyphs = lead ++ core ++ trail ∧
      (∀ glyph ∈ trail, isBlankGlyph glyph = true) ∧ (∀ glyph ∈ lead, isBlankGlyph glyph = true) ∧
      text.trim = ofGlyphs core ∧ ∀ last ∈ core.getLast?, isBlankGlyph last = false := by
  refine ⟨text.glyphs.takeWhile isBlankGlyph,
    (text.glyphs.dropWhile isBlankGlyph).rdropWhile isBlankGlyph,
    (text.glyphs.dropWhile isBlankGlyph).rtakeWhile isBlankGlyph, ?_, ?_, ?_, rfl, ?_⟩
  · rw [List.append_assoc, List.rdropWhile_append_rtakeWhile, List.takeWhile_append_dropWhile]
  · exact fun glyph member => List.mem_rtakeWhile_imp member
  · exact fun glyph member => List.mem_takeWhile_imp member
  · intro last ends
    obtain ⟨some, rfl⟩ := List.mem_getLast?_eq_getLast ends
    simpa using List.rdropWhile_last_not _ _ some

/-- Glyphs that are no bytes are no glyphs. Every glyph occupies at least one byte. -/
theorem ofGlyphs_eq_nil {glyphs : List Glyph} (none : ofGlyphs glyphs = []) : glyphs = [] := by
  cases glyphs with
  | nil => rfl
  | cons first rest => exact absurd (List.append_eq_nil_iff.mp none).1 first.bytes_ne_nil

end Text

namespace Piece

open Text

/-- White space before quiet glyphs is quiet.

Proof: induction on the blanks, each of which is quiet before what is. -/
theorem Quiet.of_blanks {blanks rest : List Glyph}
    (white : ∀ glyph ∈ blanks, isBlankGlyph glyph = true) (quiet : Quiet rest) :
    Quiet (blanks ++ rest) := by
  induction blanks with
  | nil => exact quiet
  | cons first others shorter =>
    obtain ⟨here, later⟩ := List.forall_mem_cons.mp white
    exact .blank here (shorter later)

/-- A comment without a newline is quiet before a line that ends. The comment may be empty.
Otherwise its two slashes are read as characters, and no glyph of its body is a newline, since
none of its bytes is one. -/
theorem Quiet.of_comment {comment : Text} {rest : List Glyph}
    (form : comment = [] ∨ ∃ body, comment = 47 :: 47 :: body) (line : newline ∉ comment)
    (ends : ∀ next ∈ rest.head?, next.value = '\n') (quiet : Quiet rest) :
    Quiet (Text.glyphs comment ++ rest) := by
  rcases form with rfl | ⟨body, rfl⟩
  · rw [Text.glyphs]
    exact quiet
  · have reads : Text.glyphs (47 :: 47 :: body) = .char '/' :: .char '/' :: Text.glyphs body := by
      have slash : ofChar '/' = [47] := by decide
      have behind := glyphs_ofChar_append '/' body
      have here := glyphs_ofChar_append '/' (47 :: body)
      rw [slash] at here behind
      exact here.trans (congrArg _ behind)
    rw [reads]
    refine .comment (fun glyph member ending => line ?_) ends quiet
    have whole : newline ∈ body := newline_mem_iff.mpr (List.mem_map.mpr ⟨glyph, member, ending⟩)
    exact List.mem_cons_of_mem _ (List.mem_cons_of_mem _ whole)

end Piece

namespace Text

/-- A newline byte is read as a newline. Reading goes on behind it. -/
theorem glyphs_newline (rest : Text) : glyphs (newline :: rest) = .char '\n' :: glyphs rest := by
  have reads := glyphs_ofChar_append '\n' rest
  rwa [ofChar_newline] at reads

/-- The lines behind a line start with a newline, if there are any. -/
theorem head_of_later (later : List Text) :
    (∀ next ∈ (later.flatMap (newline :: ·)).head?, next.toNat < 0x80) ∧
      ∀ next ∈ (glyphs (later.flatMap (newline :: ·))).head?, next.value = '\n' := by
  cases later with
  | nil => simp [glyphs]
  | cons line others =>
    rw [List.flatMap_cons, List.cons_append, glyphs_newline]
    constructor
    · intro next first
      cases first
      decide
    · intro next first
      cases first
      rfl

/-- A line is read apart from its comment and from the lines behind it. -/
theorem glyphs_line {said comment : Text} (form : comment = [] ∨ ∃ body, comment = 47 :: 47 :: body)
    (later : List Text) :
    glyphs (said ++ comment ++ later.flatMap (newline :: ·)) =
      glyphs said ++ (glyphs comment ++ glyphs (later.flatMap (newline :: ·))) := by
  have behind : Seam (said ++ comment) (later.flatMap (newline :: ·)) := .inr (head_of_later later).1
  have inside : Seam said comment := by
    refine .inr fun next first => ?_
    rcases form with rfl | ⟨body, rfl⟩
    · cases first
    · cases first
      decide
  rw [glyphs_append behind, glyphs_append inside, List.append_assoc]

end Text

namespace Piece

open Text

/-- Lines on which nothing is said are quiet.

Proof: induction on the lines. Each is the white space before its comment, the comment, and the
newline before which it ends. -/
theorem Quiet.of_lines {later : List Text}
    (silent : ∀ line ∈ later, newline ∉ line ∧ trim (withoutComment line) = []) :
    Quiet (Text.glyphs (later.flatMap (newline :: ·))) := by
  induction later with
  | nil =>
    rw [List.flatMap_nil, Text.glyphs]
    exact .nothing
  | cons line others shorter =>
    obtain ⟨⟨plain, nothing⟩, later⟩ := List.forall_mem_cons.mp silent
    obtain ⟨comment, split, form, _⟩ := exists_comment line
    obtain ⟨lead, core, trail, reads, trailing, leading, core_eq, _⟩ :=
      exists_trim (withoutComment line)
    have none : core = [] := ofGlyphs_eq_nil (core_eq.symm.trans nothing)
    have white : ∀ glyph ∈ Text.glyphs (withoutComment line), isBlankGlyph glyph = true := by
      rw [reads, none, List.append_nil]
      exact List.forall_mem_append.mpr ⟨leading, trailing⟩
    have within : newline ∉ comment := by
      intro inside
      rw [split] at plain
      exact plain (List.mem_append_right _ inside)
    rw [List.flatMap_cons, List.cons_append, glyphs_newline]
    refine .blank rfl ?_
    rw [split, glyphs_line form]
    exact .of_blanks white (.of_comment form within (head_of_later others).2 (shorter later))

/-- What is said on a line before which another ends, and before its own comment, is spoken.

Proof: a comment that starts in the line would start in its bytes, and one that starts before the
line meets the newline there. -/
theorem spoken_of_line {before said : List Glyph} {bytes : Text}
    (ends : ∀ last ∈ before.getLast?, last.value = '\n') (uncommented : Uncommented bytes)
    (reads : ofGlyphs said <+: bytes) : Spoken (before ++ said) := by
  have slash : (Glyph.char '/').bytes = [47] := by decide
  have inside (front body : List Glyph) : said ≠ front ++ .char '/' :: .char '/' :: body := by
    rintro rfl
    obtain ⟨rest, rfl⟩ := reads
    refine uncommented (ofGlyphs front) (ofGlyphs body ++ rest) ?_
    simp [ofGlyphs, slash]
  intro front body split
  rcases List.append_eq_append_iff.mp split with ⟨middle, rfl, later⟩ | ⟨middle, rfl, across⟩
  · exact absurd later (inside middle body)
  · cases middle with
    | nil => exact absurd across.symm (inside [] body)
    | cons first others =>
      obtain ⟨last, atEnd⟩ := Option.isSome_iff_exists.mp
        (List.getLast?_isSome.mpr (List.cons_ne_nil first others))
      have newlineLast : last.value = '\n' := by
        refine ends last ?_
        rw [List.getLast?_append, atEnd]
        rfl
      have member : last ∈ .char '/' :: .char '/' :: body := by
        rw [across]
        exact List.mem_append_left _ (List.mem_of_getLast? atEnd)
      rcases List.mem_cons.mp member with rfl | later
      · exact absurd newlineLast (by decide)
      rcases List.mem_cons.mp later with rfl | later
      · exact absurd newlineLast (by decide)
      · exact ⟨last, later, newlineLast⟩

/-- Bytes end with a semicolon exactly when their last glyph is one. A semicolon is a single byte,
and no glyph of several bytes has this byte among its own. -/
theorem getLast?_bytes_iff {text : Text} {glyphs : List Glyph} {last : Glyph}
    (member : last ∈ text.glyphs) :
    (ofGlyphs (glyphs ++ [last])).getLast? = some 59 ↔ last.value = ';' := by
  have bytes : (ofGlyphs (glyphs ++ [last])).getLast? = last.bytes.getLast? := by
    have only : ofGlyphs [last] = last.bytes := List.append_nil _
    obtain ⟨byte, ends⟩ := Option.isSome_iff_exists.mp (List.getLast?_isSome.mpr last.bytes_ne_nil)
    rw [ofGlyphs_append, only, List.getLast?_append, ends]
    rfl
  rw [bytes]
  constructor
  · intro ends
    exact (@mem_bytes_iff text last ';' member (by decide)).mp (List.mem_of_getLast? ends)
  · intro same
    rw [Glyph.eq_char same (by decide)]
    decide

/-- Glyphs before which a line ends, or nothing stands, are read by themselves. A newline is a
byte that is part of no longer character, so that cutting a text behind it cuts no character
apart. -/
theorem glyphs_before_line {front : Text} (ending : front = [] ∨ ∃ before, front = before ++ [newline])
    (rest : Text) :
    Text.glyphs (front ++ rest) = Text.glyphs front ++ Text.glyphs rest ∧
      ∀ last ∈ (Text.glyphs front).getLast?, last.value = '\n' := by
  rcases ending with rfl | ⟨before, rfl⟩
  · simp [Text.glyphs]
  · constructor
    · refine glyphs_append (.inl fun last ends => ?_)
      rw [List.getLast?_concat] at ends
      cases ends
      decide
    · have low : Seam before [newline] := by
        refine .inr fun next first => ?_
        cases first
        decide
      intro last ends
      rw [glyphs_append low, glyphs_newline, Text.glyphs, List.getLast?_concat] at ends
      cases ends
      rfl

/-- What is said on a line does not end with the slash that its comment starts with. Were a slash
to end it and another to follow, the two would start a comment one byte earlier, and no comment
starts there. -/
theorem apart_of_uncommented {said comment : Text} {front trail : List Glyph} {last : Glyph}
    {later : List Text} (form : comment = [] ∨ ∃ body, comment = 47 :: 47 :: body)
    (uncommented : Uncommented (said ++ comment.take 1))
    (reads : said.glyphs = front ++ [last] ++ trail)
    (trailing : ∀ glyph ∈ trail, isBlankGlyph glyph = true) :
    ¬ (last.value = '/' ∧ startsWith '/'
      (trail ++ (Text.glyphs comment ++ Text.glyphs (later.flatMap (newline :: ·)))) = true) := by
  rintro ⟨slash, again⟩
  obtain ⟨rest, starts⟩ := exists_of_startsWith again (by decide)
  cases trail with
  | cons first others =>
    obtain ⟨rfl, _⟩ := List.cons.inj starts
    exact absurd (trailing _ List.mem_cons_self) (by decide)
  | nil =>
    rcases form with rfl | ⟨body, rfl⟩
    · have newlineNext := (head_of_later later).2 (.char '/')
      rw [Text.glyphs, List.nil_append, List.nil_append] at starts
      rw [starts] at newlineNext
      exact absurd (newlineNext rfl) (by decide)
    · have bytes : said = ofGlyphs front ++ [47] := by
        rw [← glyphs_bytes said, reads, List.append_nil, ofGlyphs_append,
          Glyph.eq_char slash (by decide)]
        rfl
      refine uncommented (ofGlyphs front) [] ?_
      rw [bytes, List.append_assoc]
      rfl

/-- On the last line on which something is said, the last glyph that is said ends the
last token of the text. -/
theorem exists_last_kind_of_lines {text line : Text} {earlier later : List Text}
    (split : text.lines = earlier ++ line :: later) (said : trim (withoutComment line) ≠ [])
    (silent : ∀ line ∈ later, trim (withoutComment line) = []) :
    ∃ before token, kinds text.pieces = before ++ [token] ∧
      (token = .semicolon ↔ (trim (withoutComment line)).getLast? = some 59) := by
  obtain ⟨front, whole, ending⟩ := exists_before_line split
  obtain ⟨comment, lineSplit, form, uncommented⟩ := exists_comment line
  obtain ⟨lead, core, trail, reads, trailing, leading, trimmed, shown⟩ :=
    exists_trim (withoutComment line)
  rcases List.eq_nil_or_concat core with rfl | ⟨inner, last, rfl⟩
  · exact absurd trimmed said
  rw [List.concat_eq_append] at reads trimmed shown
  have atEnd : (inner ++ [last]).getLast? = some last := by simp
  have member : last ∈ Text.glyphs (withoutComment line) := by
    rw [reads]
    simp
  have plain (line : Text) (inText : line ∈ text.lines) := newline_not_mem_of_mem_lines inText
  have quietLater : Quiet (Text.glyphs (later.flatMap (newline :: ·))) := by
    refine .of_lines fun line inLater => ⟨plain line ?_, silent line inLater⟩
    rw [split]
    exact List.mem_append_right _ (List.mem_cons_of_mem _ inLater)
  have quiet :
      Quiet (trail ++ (Text.glyphs comment ++ Text.glyphs (later.flatMap (newline :: ·)))) := by
    refine .of_blanks trailing (.of_comment form ?_ (head_of_later later).2 quietLater)
    intro inside
    have none : newline ∉ line := plain line (split ▸ List.mem_append_right _ List.mem_cons_self)
    rw [lineSplit] at none
    exact none (List.mem_append_right _ inside)
  have bytes : withoutComment line = ofGlyphs (lead ++ inner ++ [last]) ++ ofGlyphs trail := by
    rw [← glyphs_bytes (withoutComment line), reads, ← ofGlyphs_append]
    simp
  obtain ⟨apartFront, frontEnds⟩ := glyphs_before_line ending (line ++ later.flatMap (newline :: ·))
  have glyphs_eq : text.glyphs = Text.glyphs front ++ (lead ++ inner) ++ last ::
      (trail ++ (Text.glyphs comment ++ Text.glyphs (later.flatMap (newline :: ·)))) := by
    rw [whole, apartFront, lineSplit, glyphs_line form, reads]
    simp
  have spoken : Spoken (Text.glyphs front ++ (lead ++ inner) ++ [last]) := by
    rw [List.append_assoc]
    refine spoken_of_line frontEnds uncommented ?_
    rw [bytes]
    exact (List.prefix_append _ (ofGlyphs trail)).trans (List.prefix_append _ _)
  have apart := @apart_of_uncommented _ comment (lead ++ inner) trail last later form uncommented
    (by rw [reads]; simp) trailing
  obtain ⟨before, token, kindsEq, semicolon⟩ :=
    exists_last_kind (shown last atEnd) spoken apart quiet
  refine ⟨before, token, ?_, semicolon.trans ?_⟩
  · rw [Text.pieces, glyphs_eq, kindsEq]
  · rw [trimmed, getLast?_bytes_iff member]

end Piece

/-- A text on whose lines nothing is said has no token. -/
theorem kinds_of_silent {text : Text}
    (silent : ∀ line ∈ text.lines, Text.trim (withoutComment line) = []) :
    Piece.kinds text.pieces = [] := by
  obtain ⟨first, others, split⟩ := List.exists_cons_of_ne_nil text.lines_ne_nil
  have quiet := Piece.Quiet.of_lines fun line member =>
    ⟨Text.newline_not_mem_of_mem_lines member, silent line member⟩
  rw [split, List.flatMap_cons, List.cons_append, ← Text.eq_of_lines split, Text.glyphs_newline]
    at quiet
  cases quiet with
  | blank white behind => exact behind.kinds_cut

/-- The prompt sees the end of a statement exactly where the last token is a semicolon.

Proof: the prompt goes through the lines from the last one on, and leaves out those on which
nothing is said. The line at which it stops holds the last token, because what follows is quiet.
If no line is left, there is no token. -/
theorem endsStatement_iff (text : Text) :
    endsStatement text = true ↔ (Piece.kinds text.pieces).getLast? = some .semicolon := by
  simp only [endsStatement, ← List.map_reverse]
  cases found : (text.lines.reverse.map fun line => Text.trim (withoutComment line)).find? (· ≠ []) with
  | none =>
    have silent : ∀ line ∈ text.lines, Text.trim (withoutComment line) = [] := by
      intro line member
      have none := List.find?_eq_none.mp found _
        (List.mem_map.mpr ⟨line, List.mem_reverse.mpr member, rfl⟩)
      simpa using none
    rw [kinds_of_silent silent]
    simp
  | some said =>
    obtain ⟨some, earlier, later, split, silent⟩ := List.find?_eq_some_iff_append.mp found
    obtain ⟨front, back, reversed, rfl, behind⟩ := List.map_eq_append_iff.mp split
    obtain ⟨line, others, rfl, rfl, rfl⟩ := List.map_eq_cons_iff.mp behind
    have lines : text.lines = others.reverse ++ line :: front.reverse := by
      rw [← List.reverse_reverse text.lines, reversed]
      simp
    have quiet : ∀ line ∈ front.reverse, Text.trim (withoutComment line) = [] := by
      intro line member
      have none := silent _ (List.mem_map.mpr ⟨line, List.mem_reverse.mp member, rfl⟩)
      simpa using none
    obtain ⟨before, token, kinds, semicolon⟩ :=
      Piece.exists_last_kind_of_lines lines (by simpa using some) quiet
    rw [kinds, List.getLast?_concat]
    simp [semicolon]

end Astro
