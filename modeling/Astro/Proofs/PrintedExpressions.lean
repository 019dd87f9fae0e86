import Astro.Proofs.Excerpts
import Astro.Proofs.PrintStyles
import Astro.Proofs.PrintedNumbers
import Astro.Proofs.Respacing

/-!
# Printing expressions in either style

The text `print(e);` is a program wherever `print` is known, as a keyword or as a procedure,
when `e` is the text of an expression. It prints the value of that expression on one line
(`Dialect.Prints`). The pieces of `e` are the same in front of a parenthesis as they are at
the end of a text, unless `e` has a comment, which the parenthesis would belong to.
-/

namespace Astro

/-! ### Pieces before a glyph that goes on with none -/

namespace Piece

section Outer

variable {next : Glyph} (outer : isInner next = false)

include outer

/-- No class of glyphs inside a token is counted over a glyph that cannot stand there.

Proof: induction on the line. Counting ends at a glyph outside the class, or else at the one that
stands behind the line. -/
theorem countWhile_outer {accepts : Glyph → Bool}
    (inner : ∀ glyph, accepts glyph = true → isInner glyph = true) (line after : List Glyph) :
    countWhile accepts (line ++ next :: after) = countWhile accepts line := by
  have stops : accepts next = false := by
    by_contra accepted
    rw [inner next (Bool.not_eq_false _ ▸ accepted)] at outer
    cases outer
  induction line with
  | nil => simp only [countWhile, List.nil_append, List.takeWhile_cons, stops, List.takeWhile_nil,
      Bool.false_eq_true, if_false]
  | cons first rest others =>
    simp only [countWhile, List.cons_append, List.takeWhile_cons] at others ⊢
    split
    · rw [List.length_cons, List.length_cons, others]
    · rfl

/-- A numeral ends before such a glyph where it would end without it. -/
theorem numeralLength_outer (line after : List Glyph) :
    numeralLength (line ++ next :: after) = numeralLength line := by
  have within : numeralLength (line ++ next :: after) ≤ line.length :=
    le_of_innerUpTo (innerUpTo_numeral _) (numeralLength_le _)
      fun glyph first => Option.some.inj first ▸ outer
  apply Nat.le_antisymm
  · have taken := le_numeralLength_take (line ++ next :: after)
      (line.drop (numeralLength (line ++ next :: after)))
    rwa [List.take_append_of_le_length within, List.take_append_drop,
      List.length_take_of_le within] at taken
  · have fits := numeralLength_le line
    have taken := le_numeralLength_take line (line.drop (numeralLength line) ++ next :: after)
    rwa [← List.append_assoc, List.take_append_drop, List.length_take_of_le fits] at taken

end Outer

/-- What a text goes on with is the same before another character, or there is nothing. -/
theorem startsWith_outer {c : Char} {next : Glyph} (other : next.value ≠ c)
    (line after : List Glyph) : startsWith c (line ++ next :: after) = startsWith c line := by
  cases line with
  | nil => simp [startsWith, other]
  | cons first rest => rfl

/-- A piece does not reach over the end of the glyphs. -/
theorem Cut.length_le {first : Glyph} {rest : List Glyph} {kind : Option Token.Kind}
    {length : Nat} (decided : Cut first rest kind length) : length ≤ rest.length := by
  cases decided with
  | blank white => exact Nat.zero_le _
  | comment slash again => exact countWhile_le _ rest
  | number digit => exact numeralLength_le rest
  | word starts => exact countWhile_le _ rest
  | power star again =>
    obtain ⟨others, rfl⟩ := exists_of_startsWith again (by decide)
    exact Nat.succ_pos _
  | symbol noBlank noComment noDigit noWord => exact Nat.zero_le _

/-- A glyph that goes on with no piece before it: it cannot stand inside a token, and it is
not the second slash of a comment. -/
structure Closes (next : Glyph) : Prop where
  outer : isInner next = false
  noSlash : next.value ≠ '/'

namespace Closes

variable {next : Glyph} (closes : Closes next)

include closes

/-- Nor is it a star, since a star can stand inside a token. -/
theorem noStar : next.value ≠ '*' := by
  intro star
  have inner : isInner next = true := by simp [isInner, star]
  rw [closes.outer] at inner
  cases inner

/-- What a piece is does not depend on such a glyph behind it. -/
theorem kindAt_eq (first : Glyph) (line after : List Glyph) :
    kindAt first (line ++ next :: after) = kindAt first line := by
  have slash := startsWith_outer closes.noSlash line after
  have star := startsWith_outer closes.noStar line after
  have word := countWhile_outer closes.outer isInner_of_continuesWord line after
  simp only [kindAt, slash, star, word, List.take_append_of_le_length (countWhile_le _ _)]

/-- How far a piece reaches does not depend on it either, unless the piece is a comment. -/
theorem extent_eq {first : Glyph} {line : List Glyph}
    (noComment : ¬ (first.value = '/' ∧ startsWith '/' line = true)) (after : List Glyph) :
    extent first (line ++ next :: after) = extent first line := by
  have slash := startsWith_outer closes.noSlash line after
  have star := startsWith_outer closes.noStar line after
  have word := countWhile_outer closes.outer isInner_of_continuesWord line after
  have numeral := numeralLength_outer closes.outer line after
  simp only [extent, slash, star, word, numeral, if_neg noComment]

/-- Without comments, the pieces on the two sides of such a glyph are cut apart.

Proof: strong induction on the number of glyphs before it, piece by piece. -/
theorem cut_eq {line : List Glyph} (plain : ¬ [.char '/', .char '/'] <:+: line)
    (after : List Glyph) : cut (line ++ next :: after) = cut line ++ cut (next :: after) := by
  induction size : line.length using Nat.strongRecOn generalizing line with
  | ind count shorter =>
    cases line with
    | nil =>
      have nothing : cut [] = [] := by rw [cut]
      rw [nothing, List.nil_append, List.nil_append]
    | cons first rest =>
      have noComment : ¬ (first.value = '/' ∧ startsWith '/' rest = true) := by
        rintro ⟨slash, again⟩
        obtain rfl := Glyph.eq_char slash (by decide)
        obtain ⟨others, rfl⟩ := exists_of_startsWith again (by decide)
        exact plain (List.prefix_append [_, _] others).isInfix
      have part : rest.drop (extent first rest) <:+: first :: rest :=
        ((List.drop_suffix _ _).trans (List.suffix_cons _ _)).isInfix
      have fewer : (rest.drop (extent first rest)).length < count := by
        rw [← size, List.length_drop, List.length_cons]
        omega
      have fits := (isCut first rest).length_le
      have behind := shorter _ fewer (fun comment => plain (comment.trans part)) rfl
      rw [List.cons_append, cut, cut, closes.kindAt_eq, closes.extent_eq noComment,
        List.take_append_of_le_length fits, List.drop_append_of_le_length fits, behind,
        List.cons_append]

end Closes

end Piece

/-! ### The text of a statement that prints -/

namespace Text

/-- A text without comments. Two slashes always start one. -/
def Uncommented (text : Text) : Prop := ¬ ofString "//" <:+: text

/-- Whether a text is without comments is found by a search for two slashes. -/
instance (text : Text) : Decidable text.Uncommented :=
  inferInstanceAs (Decidable (¬ ofString "//" <:+: text))

/-- The text of a program that prints what another text means. -/
def printed (text : Text) : Text := ofString "print(" ++ text ++ ofString ");"

/-- A text without comments has no two slashes side by side. -/
theorem Uncommented.plain {text : Text} (uncommented : text.Uncommented) :
    ¬ [.char '/', .char '/'] <:+: text.glyphs := by
  rintro ⟨front, back, split⟩
  apply uncommented
  refine ⟨ofGlyphs front, ofGlyphs back, ?_⟩
  rw [← glyphs_bytes text, ← split, ofGlyphs_append, ofGlyphs_append]
  rfl

/-- The characters of the program are those of the text between those that are put around it. The
text may even be broken where it ends: a parenthesis cannot complete a character. -/
theorem glyphs_printed (text : Text) :
    (printed text).glyphs =
      "print(".toList.map .char ++ (text.glyphs ++ [.char ')', .char ';']) := by
  have last : Text.glyphs (ofString ");") = [.char ')', .char ';'] := by
    have read := glyphs_ofChars_append [')', ';'] []
    rw [List.append_nil, glyphs] at read
    exact read
  have seam : Seam text (ofString ");") := by
    right
    intro next first
    cases first
    decide
  rw [printed, List.append_assoc, ofString, glyphs_ofChars_append, glyphs_append seam, last]

/-- The words of such a text are those of the text inside, which must have no comments, and
the ones around them. -/
theorem words_printed {text : Text} (uncommented : text.Uncommented) :
    Piece.words (printed text).pieces =
      (.printWord, ofString "print") :: (.leftParen, ofString "(") ::
        (Piece.words text.pieces ++ [(.rightParen, ofString ")"), (.semicolon, ofString ";")]) := by
  have closes : Piece.Closes (.char ')') := ⟨by decide +kernel, by decide⟩
  have opened (rest : List Glyph) : Piece.words (Piece.cut ("print(".toList.map .char ++ rest)) =
      (.printWord, ofString "print") :: (.leftParen, ofString "(") ::
        Piece.words (Piece.cut rest) := by
    have paren : Piece.cut (.char '(' :: rest) =
        ⟨some .leftParen, [.char '(']⟩ :: Piece.cut rest := by
      rw [Piece.cut]
      rfl
    have split : "print(".toList.map Glyph.char ++ rest =
        .char 'p' :: ("rint".toList.map .char ++ .char '(' :: rest) := rfl
    have word : Piece.cut ("print(".toList.map .char ++ rest) =
        ⟨some .printWord, "print".toList.map .char⟩ :: Piece.cut (.char '(' :: rest) := by
      rw [split, Piece.cut]
      rfl
    rw [word, paren]
    rfl
  have closed : Piece.words (Piece.cut [.char ')', .char ';']) =
      [(.rightParen, ofString ")"), (.semicolon, ofString ";")] := by
    have paren : Piece.cut [.char ')', .char ';'] =
        ⟨some .rightParen, [.char ')']⟩ :: Piece.cut [.char ';'] := by
      rw [Piece.cut]
      rfl
    rw [paren, Piece.cut_semicolon]
    rfl
  rw [pieces, glyphs_printed, opened, closes.cut_eq uncommented.plain, ← closed, pieces,
    Piece.words, Piece.words, Piece.words, List.filterMap_append]

end Text

/-! ### The statement and what it does -/

namespace Token

/-- The tokens of a statement that prints what others mean, without their places. -/
def printed (within : List Token) : List Token :=
  ⟨.printWord, Text.ofString "print", .nowhere⟩ :: ⟨.leftParen, Text.ofString "(", .nowhere⟩ ::
    (within ++ [⟨.rightParen, Text.ofString ")", .nowhere⟩,
      ⟨.semicolon, Text.ofString ";", .nowhere⟩])

/-- The text of a statement that prints has the tokens of such a statement. -/
theorem relocate_printed {text : Text} (uncommented : text.Uncommented) :
    (ofText text.printed).map (relocate fun _ => .nowhere) =
      (printed (beforeEnd (ofText text)) ++ [missing]).map (relocate fun _ => .nowhere) := by
  apply map_relocate_of_words
  rw [ofText, map_place, Text.words_printed uncommented, ← map_beforeEnd, printed]
  simp only [List.map_cons, List.map_append, List.cons_append, List.append_assoc, List.map_nil]
  rfl

/-- Tokens without problems are legal, and so are those before the end of the input. -/
theorem legal_beforeEnd {tokens : List Token} (legal : problems tokens = []) :
    .illegal ∉ (beforeEnd tokens).map Token.kind := by
  intro member
  obtain ⟨token, before, illegal⟩ := List.mem_map.mp member
  rw [problems_eq, List.map_eq_nil_iff, List.filter_eq_nil_iff] at legal
  have among : token ∈ tokens := (List.takeWhile_sublist _).subset before
  exact legal token among (decide_eq_true illegal)

/-- The tokens of a statement that prints are without problems when those inside are. -/
theorem problems_printed {text : Text} (uncommented : text.Uncommented)
    (legal : problems (ofText text) = []) : problems (ofText text.printed) = [] := by
  have inside := legal_beforeEnd legal
  have spelled : problems (printed (beforeEnd (ofText text)) ++ [missing]) = [] := by
    apply problems_eq_nil
    simpa [printed, missing] using inside
  have same := congrArg problems (relocate_printed uncommented)
  rw [problems_relocate, problems_relocate, spelled, List.map_nil, List.map_eq_nil_iff] at same
  exact same

/-- The tokens of a statement that prints do not end the input, and what stands before the
end is they. -/
theorem beforeEnd_printed (tokens : List Token) :
    beforeEnd (printed (beforeEnd tokens) ++ [missing]) = printed (beforeEnd tokens) := by
  have going : ∀ token ∈ printed (beforeEnd tokens), token.kind ≠ .endOfInput := by
    simp only [printed, List.mem_cons, List.mem_append, List.not_mem_nil, or_false]
    rintro token (rfl | rfl | inside | rfl | rfl)
    · decide
    · decide
    · have going := List.mem_takeWhile_imp inside
      exact of_decide_eq_true going
    · decide
    · decide
  have ends : (next [missing]).kind = .endOfInput := rfl
  rw [beforeEnd_append going, beforeEnd_of_ends ends, List.append_nil]

end Token

/-- The word `print` is known in a dialect, as a keyword or as a procedure. -/
def Dialect.KnowsPrint (dialect : Dialect) : Prop :=
  dialect.print = .keyword ∨ dialect.print = .procedure

/-- Where `print` is known, an expression in parentheses behind it makes a statement. Where
the expression has a value, the statement writes that on a line, provided that a procedure
`print` is bound. -/
theorem Grammar.Expression.exists_printed {dialect : Dialect} {within : List Token} {tree : Expr}
    (derived : Expression dialect within tree) (known : dialect.KnowsPrint) :
    ∃ stmt, Statement dialect (Token.printed within) stmt ∧
      ∀ table value, tree.evaluate table = .ok value →
        (dialect.print = .procedure → table.lookup? Table.printProcedure.name =
          some (.procedure Table.printProcedure)) →
        stmt.action table = .ok (.perform (.script [Table.printedLine value] none)) := by
  rcases known with keyword | procedure
  · have grouped : Expression dialect (⟨.leftParen, Text.ofString "(", .nowhere⟩ ::
        (within ++ [⟨.rightParen, Text.ofString ")", .nowhere⟩])) tree :=
      .term (.factor (.primary (.group rfl derived rfl)))
    have stated := @Statement.print dialect ⟨.printWord, Text.ofString "print", .nowhere⟩
      ⟨.semicolon, Text.ofString ";", .nowhere⟩ _ tree keyword rfl grouped rfl
    rw [List.cons_append, List.append_assoc] at stated
    exact ⟨_, stated, fun table value evaluates _ => Stmt.action_print _ evaluates⟩
  · have stated := @Statement.call dialect ⟨.printWord, Text.ofString "print", .nowhere⟩
      ⟨.leftParen, Text.ofString "(", .nowhere⟩ ⟨.rightParen, Text.ofString ")", .nowhere⟩
      ⟨.semicolon, Text.ofString ";", .nowhere⟩ within [tree] (.inr ⟨rfl, procedure⟩) rfl
      (.some (.last derived)) rfl rfl
    rw [List.append_assoc] at stated
    refine ⟨_, stated, ?_⟩
    intro table value evaluates bound
    exact (Stmt.action_printed (bound procedure) rfl rfl).trans
      (Stmt.action_print .nowhere evaluates)

/-- A new table binds the procedure `print` where `print` is one. -/
theorem Table.lookup?_printProcedure {dialect : Dialect} (procedure : dialect.print = .procedure) :
    (initial dialect).lookup? printProcedure.name = some (.procedure printProcedure) := by
  rw [lookup?_initial_iff, given, if_pos procedure]
  exact List.mem_append_right _ (List.mem_singleton_self _)

/-! ### The program in a session -/

/-- A text is that of an expression with a given tree: its characters are legal, and the
expression is derived from its tokens. -/
structure Dialect.Accepts (dialect : Dialect) (text : Text) (tree : Expr) : Prop where
  legal : Token.problems (Token.ofText text) = []
  derived : Grammar.Expression dialect (Token.beforeEnd (Token.ofText text)) tree

/-- Programs of the same shape do the same: when one runs to its end, so does the other, and
the output is the same. -/
theorem Machine.run_alike {σ : Type} [Output σ] {body other : List Stmt}
    (same : body.map Stmt.shape = other.map Stmt.shape) (machine : Machine σ) :
    ((machine.run body).2 = none ↔ (machine.run other).2 = none) ∧
      (machine.run body).1.console = (machine.run other).1.console := by
  have first := (Agrees.refl machine).run_relocate (fun _ => .nowhere) body
  have second := (Agrees.refl machine).run_relocate (fun _ => .nowhere) other
  have moved : body.map (Stmt.relocate fun _ => .nowhere) =
      other.map (Stmt.relocate fun _ => .nowhere) := same
  rw [moved] at first
  have failures := first.2.symm.trans second.2
  constructor
  · rw [← Option.map_eq_none_iff, failures, Option.map_eq_none_iff]
  · exact first.1.console.trans second.1.console.symm

/-- A number is written without a newline. It is one of three words, perhaps with a sign, or a
numeral, and these have no newline among their characters. -/
theorem Number.newline_not_mem_format (value : Float) : Text.newline ∉ format value := by
  cases written : parts value with
  | nan =>
    have word : format value = Text.ofString "NaN" := by rw [format, written]
    rw [word]
    decide
  | infinite negative =>
    have word : format value = Text.ofString (if negative then "-Infinity" else "Infinity") := by
      rw [format, written]
    rw [word]
    cases negative <;> decide
  | finite negative mantissa exponent =>
    obtain ⟨numeral, formatted, -, -⟩ := exists_numeral written
    rw [formatted]
    apply Text.newline_not_mem_ofChars
    intro member
    rcases List.mem_append.mp member with sign | inside
    · cases negative <;> simp at sign
    · rcases numeral.mem_chars inside with digit | mark
      · cases digit
      · simp at mark

/-- The text of a statement that prints an accepted expression is parsed where `print` is known,
and the program has the shape of one statement, which writes the value of the expression on a
line.

Proof: the tokens of the expression, put between those of the statement, spell such a statement.
The tokens of the text differ from these only in their places. -/
theorem Session.exists_printed {dialect : Dialect} {text : Text} {tree : Expr}
    (known : dialect.KnowsPrint) (uncommented : text.Uncommented)
    (accepted : dialect.Accepts text tree) :
    ∃ program stmt, parse dialect text.printed = .ok program ∧
      program.body.map Stmt.shape = [stmt].map Stmt.shape ∧
      ∀ value, tree.evaluate (Table.initial dialect) = .ok value →
        stmt.action (Table.initial dialect) =
          .ok (.perform (.script [Table.printedLine value] none)) := by
  obtain ⟨stmt, stated, acts⟩ := accepted.derived.exists_printed known
  have derived : Grammar.Body dialect (Token.beforeEnd
      (Token.printed (Token.beforeEnd (Token.ofText text)) ++ [Token.missing])) [stmt] := by
    rw [Token.beforeEnd_printed]
    exact .last stated
  obtain ⟨clean, spelled⟩ := (Program.ofTokens_iff_body dialect _ _).mpr derived
  obtain ⟨shape, wrong⟩ := Program.ofTokens_alike dialect (Token.exists_endOfInput text.printed)
    ⟨Token.missing, List.mem_append_right _ (List.mem_singleton_self _), rfl⟩
    (Token.relocate_printed uncommented)
  rw [spelled] at shape
  rw [clean, List.map_nil, List.map_eq_nil_iff] at wrong
  have legal := Token.problems_printed uncommented accepted.legal
  refine ⟨(Program.ofTokens dialect (Token.ofText text.printed)).1, stmt, ?_, shape, ?_⟩
  · rw [parse_eq_ok_iff, Program.ofText_of_legal dialect legal, wrong]
  · intro value evaluates
    exact acts _ value evaluates Table.lookup?_printProcedure

/-- Programs of a dialect can print: where the text `e` of an expression has no comments, the
dialect accepts it and the expression has a value at first, `print(e);` is a program. In a new
session it runs to its end, and it writes the value on one line. -/
def Dialect.Prints (dialect : Dialect) : Prop :=
  ∀ (text : Text) (tree : Expr) (value : Float), text.Uncommented → dialect.Accepts text tree →
    tree.evaluate (Table.initial dialect) = .ok value →
    ∀ (console : Console) (level : TraceLevel), console.room = none →
      (∃ program, Session.parse dialect text.printed = .ok program) ∧
      ((Session.new dialect console level).exec text.printed).2 = none ∧
      ((Session.new dialect console level).exec text.printed).1.machine.console.written =
        console.written ++ [Number.format value ++ Text.ofString "\n"] ∧
      Text.newline ∉ Number.format value

/-- Where `print` is known, as a keyword or as a procedure, programs can print.

Proof: the program has the shape of a print statement, so it runs as that does, and the line that
this writes is taken where there is room. -/
theorem Dialect.KnowsPrint.prints {dialect : Dialect} (known : dialect.KnowsPrint) :
    dialect.Prints := by
  intro text tree value uncommented accepted evaluates console level room
  obtain ⟨program, stmt, parsed, shape, acts⟩ :=
    Session.exists_printed known uncommented accepted
  obtain ⟨ends, written⟩ := Machine.run_line (Session.new dialect console level).machine room
    (acts value evaluates)
  obtain ⟨completes, output⟩ :=
    Machine.run_alike shape (Session.new dialect console level).machine
  have executed : (Session.new dialect console level).exec text.printed = _ :=
    Session.exec_of_parse parsed
  rw [executed]
  refine ⟨⟨program, parsed⟩, completes.mpr ends, ?_, Number.newline_not_mem_format value⟩
  exact (congrArg Console.written output).trans written

end Astro
