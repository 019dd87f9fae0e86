import Astro.Proofs.LastWords
import Astro.Proofs.NumeralReading
import Astro.Proofs.RelocatedRun
import Astro.Proofs.Sessions

/-!
# Printed numbers are numerals of the language

What a program prints can be written in a program again. The text of a finite number is
one numeral to the scanner, or a minus and a numeral, and a program that prints it prints
the same number, to its last bit (`format_reads_back`). Different numbers are therefore
printed differently.
-/

namespace Astro

open Piece

/-! ### Scanning numerals -/

/-- What starts with a digit is a numeral. A digit is no blank and starts no comment, which are
the two cases before it. -/
theorem Piece.kindAt_digit {first : Char} (digit : first.isDigit = true) (rest : List Glyph) :
    kindAt (.char first) rest = some .number ∧ extent (.char first) rest = numeralLength rest := by
  have counted : isDigit (.char first) = true := digit
  have visible : Text.isBlankGlyph (.char first) = false := by
    by_contra blank
    have outer := isInner_of_isBlankGlyph (Bool.not_eq_false _ ▸ blank)
    rw [isInner_of_isDigit _ counted] at outer
    cases outer
  have noComment : ¬ ((Glyph.char first).value = '/' ∧ startsWith '/' rest = true) := by
    rintro ⟨slash, -⟩
    obtain rfl : first = '/' := slash
    cases digit
  constructor
  · rw [kindAt, if_neg (by simp [visible]), if_neg noComment, if_pos counted]
  · rw [extent, if_neg (by simp [visible]), if_neg noComment, if_pos counted]

/-- The word that prints is one piece, and the blank behind it is another one. -/
theorem Piece.cut_print (rest : List Glyph) :
    cut ("print ".toList.map .char ++ rest) =
      ⟨some .printWord, "print".toList.map .char⟩ :: ⟨none, [.char ' ']⟩ :: cut rest := by
  have blank : cut (.char ' ' :: rest) = ⟨none, [.char ' ']⟩ :: cut rest := by
    rw [cut]
    rfl
  have split : "print ".toList.map Glyph.char ++ rest =
      .char 'p' :: ("rint".toList.map .char ++ .char ' ' :: rest) := rfl
  rw [← blank, split, cut]
  rfl

/-- A semicolon alone is one piece. It is the last one of a statement that prints. -/
theorem Piece.cut_semicolon : cut [.char ';'] = [⟨some .semicolon, [.char ';']⟩] := by
  have nothing : cut [] = [] := by rw [cut]
  rw [cut, ← nothing]
  rfl

/-- Characters are spelled as themselves. Only stray bytes are spelled with another character. -/
theorem Piece.lexeme_chars (kind : Option Token.Kind) (cs : List Char) :
    lexeme ⟨kind, cs.map .char⟩ = Text.ofChars cs := by
  rw [lexeme, List.map_map]
  exact congrArg _ (List.map_id cs)

namespace Number.Numeral

/-- No part of a numeral starts here. A numeral in front of it is therefore read to its own end. -/
structure Ends (rest : List Glyph) : Prop where
  digits : countWhile isDigit rest = 0
  fraction : fractionLength rest = 0
  exponent : exponentLength rest = 0

/-- Nothing goes on behind the end of a text. -/
theorem ends_nil : Ends [] := ⟨rfl, rfl, rfl⟩

/-- A semicolon is no part of a numeral, whatever stands behind it. -/
theorem ends_semicolon (rest : List Glyph) : Ends (.char ';' :: rest) := ⟨rfl, rfl, rfl⟩

variable (numeral : Numeral) {rest : List Glyph} (ends : Ends rest)

include ends

/-- Where an exponent is written, it is taken to its end, and neither a digit nor a point
stands before it. -/
theorem exponentLength_chars :
    exponentLength (numeral.exponentChars.map .char ++ rest) = numeral.exponentChars.length ∧
      countWhile isDigit (numeral.exponentChars.map .char ++ rest) = 0 ∧
      fractionLength (numeral.exponentChars.map .char ++ rest) = 0 := by
  rcases numeral.exponentChars_cases with ⟨-, nothing⟩ | ⟨order, -, -, written⟩
  · rw [nothing]
    exact ⟨ends.exponent, ends.digits, ends.fraction⟩
  · have digits : Astro.Numeral.Digits (Nat.toDigits 10 order.natAbs) :=
      ⟨List.ne_nil_of_length_pos Nat.length_toDigits_pos, fun c member =>
        Nat.isDigit_of_mem_toDigits (by decide) (by decide) member⟩
    have signed : Astro.Numeral.Sign [if order < 0 then '-' else '+'] := by
      split
      · exact .inr (.inr rfl)
      · exact .inr (.inl rfl)
    have taken := exponentLength_append (.inl rfl) signed digits rest
    rw [ends.digits] at taken
    rw [written]
    refine ⟨?_, rfl, fractionLength_of_not (by decide) _⟩
    simp only [List.map_cons, List.map_nil, List.cons_append, List.nil_append,
      List.length_cons, List.length_nil, Nat.add_zero] at taken ⊢
    omega

/-- A fraction that is written is taken to its end, and no digit stands before it. -/
theorem fractionLength_chars :
    fractionLength (numeral.fractionChars.map .char ++
        (numeral.exponentChars.map .char ++ rest)) = numeral.fractionChars.length ∧
      countWhile isDigit (numeral.fractionChars.map .char ++
        (numeral.exponentChars.map .char ++ rest)) = 0 := by
  obtain ⟨-, noDigit, noPoint⟩ := numeral.exponentLength_chars ends
  unfold fractionChars
  split
  · exact ⟨noPoint, noDigit⟩
  · next some =>
    have taken := fractionLength_append ⟨some, numeral.fractionDigits⟩
      (numeral.exponentChars.map .char ++ rest)
    rw [noDigit] at taken
    refine ⟨?_, rfl⟩
    simp only [List.map_cons, List.cons_append, List.length_cons] at taken ⊢
    omega

/-- A numeral is one piece, whatever stands behind it that does not go on with it. Its digits, its
fraction and its exponent are each taken to their end, and the next piece starts behind them. -/
theorem cut_chars :
    cut (numeral.chars.map .char ++ rest) =
      ⟨some .number, numeral.chars.map .char⟩ :: cut rest := by
  obtain ⟨first, more, split⟩ := List.exists_cons_of_ne_nil numeral.nonempty
  have digits := numeral.wholeDigits
  rw [split] at digits
  obtain ⟨digit, others⟩ := List.forall_mem_cons.mp digits
  obtain ⟨fraction, noDigit⟩ := numeral.fractionLength_chars ends
  obtain ⟨exponent, -, -⟩ := numeral.exponentLength_chars ends
  have length : numeralLength ((more ++ (numeral.fractionChars ++ numeral.exponentChars)).map .char ++
      rest) = (more ++ (numeral.fractionChars ++ numeral.exponentChars)).length := by
    rw [List.map_append, List.map_append, List.append_assoc, List.append_assoc,
      numeralLength_append others noDigit, fraction, List.drop_left' (List.length_map _), exponent,
      List.length_append, List.length_append, Nat.add_assoc]
  obtain ⟨kind, reach⟩ := kindAt_digit digit
    ((more ++ (numeral.fractionChars ++ numeral.exponentChars)).map .char ++ rest)
  rw [chars, split, List.cons_append, List.map_cons, List.cons_append, cut, kind, reach, length,
    List.take_left' (List.length_map _), List.drop_left' (List.length_map _)]

/-- Behind a sign it is the second of two pieces. -/
theorem cut_signed (negative : Bool) :
    cut (((if negative then ['-'] else []) ++ numeral.chars).map .char ++ rest) =
      (if negative then [⟨some .minus, [.char '-']⟩] else []) ++
        ⟨some .number, numeral.chars.map .char⟩ :: cut rest := by
  cases negative with
  | false => exact numeral.cut_chars ends
  | true =>
    have minus (behind : List Glyph) :
        cut (.char '-' :: behind) = ⟨some .minus, [.char '-']⟩ :: cut behind := by
      rw [cut]
      rfl
    change cut (.char '-' :: (numeral.chars.map .char ++ rest)) = _
    rw [minus, numeral.cut_chars ends]
    rfl

end Number.Numeral

namespace Token

/-- The kinds of the tokens of a text are those of its pieces, and the end of the input. -/
theorem kinds_ofText (text : Text) :
    (ofText text).map Token.kind = Piece.kinds text.pieces ++ [.endOfInput] := by
  obtain ⟨words, ending, kinds, ends, tokens⟩ := exists_words_of_text text
  rw [tokens, List.map_append, kinds, List.map_singleton, ends]

/-- Tokens among which none is illegal are without problems. Problems are about illegal tokens
alone. -/
theorem problems_eq_nil {tokens : List Token} (legal : .illegal ∉ tokens.map Token.kind) :
    problems tokens = [] := by
  rw [problems_eq, List.map_eq_nil_iff, List.filter_eq_nil_iff]
  intro token member illegal
  apply legal
  rw [← of_decide_eq_true illegal]
  exact List.mem_map_of_mem member

end Token

section Signed

variable (numeral : Number.Numeral) (negative : Bool)

/-- The tokens of a numeral with a sign. The sign is a token of its own, as numerals have none. -/
theorem Token.kinds_signed :
    (Token.ofText (Text.ofChars ((if negative then ['-'] else []) ++ numeral.chars))).map Token.kind =
      if negative then [.minus, .number, .endOfInput] else [.number, .endOfInput] := by
  have read := Text.glyphs_ofChars_append ((if negative then ['-'] else []) ++ numeral.chars) []
  rw [List.append_nil] at read
  rw [kinds_ofText, Text.pieces, read, Text.glyphs, numeral.cut_signed Number.Numeral.ends_nil,
    cut]
  cases negative <;> rfl

/-- The pieces of a statement that prints a numeral with a sign. -/
theorem Text.pieces_printing :
    Text.pieces (Text.ofString "print " ++
        Text.ofChars ((if negative then ['-'] else []) ++ numeral.chars) ++ Text.ofString ";") =
      ⟨some .printWord, "print".toList.map .char⟩ :: ⟨none, [.char ' ']⟩ ::
        ((if negative then [⟨some .minus, [.char '-']⟩] else []) ++
          [⟨some .number, numeral.chars.map .char⟩, ⟨some .semicolon, [.char ';']⟩]) := by
  have last : Text.glyphs (Text.ofString ";") = [.char ';'] := by
    have read := Text.glyphs_ofChars_append [';'] []
    rw [List.append_nil, Text.glyphs] at read
    exact read
  rw [Text.pieces, List.append_assoc, Text.ofString, Text.glyphs_ofChars_append,
    Text.glyphs_ofChars_append, last, cut_print,
    numeral.cut_signed (Number.Numeral.ends_semicolon []), cut_semicolon]

end Signed

/-! ### Programs that print numbers -/

/-- The tokens of a text are those of a statement that prints a numeral, with a minus before
it or without. -/
structure Token.Printing (source : Text) (negative : Bool) (lexeme : Text) where
  word : Token
  signs : List Token
  number : Token
  close : Token
  ending : Token
  tokens : ofText source = word :: (signs ++ [number] ++ [close]) ++ [ending]
  prints : word.kind = .printWord
  signed : negative = false ∧ signs = [] ∨
    negative = true ∧ ∃ sign, signs = [sign] ∧ sign.kind = .minus
  numeric : number.kind = .number
  spelled : number.lexeme = lexeme
  closes : close.kind = .semicolon
  ends : ending.kind = .endOfInput

/-- A numeral with a sign can be printed. -/
theorem Token.exists_printing (numeral : Number.Numeral) (negative : Bool) :
    Nonempty (Printing
      (Text.ofString "print " ++
        Text.ofChars ((if negative then ['-'] else []) ++ numeral.chars) ++ Text.ofString ";")
      negative (Text.ofChars numeral.chars)) := by
  have pieces := Text.pieces_printing numeral negative
  cases negative with
  | false =>
    have tokens := congrArg (place .start) pieces
    exact ⟨_, [], _, _, _, tokens, rfl, .inl ⟨rfl, rfl⟩, rfl, lexeme_chars _ _, rfl, rfl⟩
  | true =>
    have tokens := congrArg (place .start) pieces
    exact ⟨_, [_], _, _, _, tokens, rfl, .inr ⟨rfl, _, rfl, rfl⟩, rfl, lexeme_chars _ _, rfl, rfl⟩

namespace Token.Printing

variable {source lexeme : Text} {negative : Bool} (printing : Printing source negative lexeme)

include printing

/-- The words of such a statement. They are of four kinds, and none of them is a name. -/
theorem kinds : ∀ token ∈ printing.word :: (printing.signs ++ [printing.number] ++ [printing.close]),
    token.kind ∈ [.printWord, .minus, .number, .semicolon] := by
  obtain ⟨word, signs, number, close, ending, -, prints, signed, numeric, -, closes, -⟩ := printing
  intro token member
  simp only [List.mem_cons, List.mem_append, List.not_mem_nil, or_false] at member ⊢
  rcases member with rfl | (isSign | rfl) | rfl
  · exact .inl prints
  · rcases signed with ⟨-, rfl⟩ | ⟨-, sign, rfl, minus⟩
    · cases isSign
    · obtain rfl := List.mem_singleton.mp isSign
      exact .inr (.inl minus)
  · exact .inr (.inr (.inl numeric))
  · exact .inr (.inr (.inr closes))

/-- None of them is illegal. The text can therefore be read as a program. -/
theorem legal : problems (ofText source) = [] := by
  apply problems_eq_nil
  intro member
  obtain ⟨token, among, illegal⟩ := List.mem_map.mp member
  rw [printing.tokens] at among
  rcases List.mem_append.mp among with word | last
  · have kind := printing.kinds token word
    rw [illegal] at kind
    simp at kind
  · obtain rfl := List.mem_singleton.mp last
    rw [printing.ends] at illegal
    cases illegal

/-- A numeral, or a minus and a numeral, is an expression that has the value of the numeral or
its negation, whatever names stand for. -/
theorem exists_expression {size : Float} (denotes : Number.ofNumeral? lexeme = some size) :
    ∃ expr, Grammar.Expression .full (printing.signs ++ [printing.number]) expr ∧
      ∀ table, expr.evaluate table = .ok (if negative then -size else size) := by
  rw [← printing.spelled] at denotes
  have primary : Grammar.Primary .full [printing.number] _ := .number printing.numeric denotes
  rcases printing.signed with ⟨rfl, none⟩ | ⟨rfl, sign, one, minus⟩
  · rw [none]
    refine ⟨_, .term (.factor (.primary primary)), ?_⟩
    intro table
    rw [Expr.evaluate]
    rfl
  · rw [one]
    refine ⟨_, .term (.factor (.negation rfl minus primary)), ?_⟩
    intro table
    rw [Expr.evaluate, Expr.evaluate]
    rfl

/-- The statement is derived from its words. Its words are the printing word, the sign if there is
one, the numeral and the semicolon, and nothing else stands before the end of the input. -/
theorem exists_body {size : Float} (denotes : Number.ofNumeral? lexeme = some size) :
    ∃ span expr, Grammar.Body .full (beforeEnd (ofText source)) [.print span expr] ∧
      ∀ table, expr.evaluate table = .ok (if negative then -size else size) := by
  obtain ⟨expr, derived, evaluates⟩ := printing.exists_expression denotes
  have going : ∀ token ∈ printing.word :: (printing.signs ++ [printing.number] ++ [printing.close]),
      token.kind ≠ .endOfInput := by
    intro token member ends
    have kind := printing.kinds token member
    rw [ends] at kind
    simp at kind
  have before : beforeEnd (ofText source) =
      printing.word :: (printing.signs ++ [printing.number] ++ [printing.close]) := by
    have atEnd : (next [printing.ending]).kind = .endOfInput := printing.ends
    rw [printing.tokens, beforeEnd_append going, beforeEnd_of_ends atEnd, List.append_nil]
  rw [before]
  exact ⟨_, expr, .last (.print rfl printing.prints derived printing.closes), evaluates⟩

end Token.Printing

/-- Legal tokens that a program is derived from are parsed as it. -/
theorem Session.parse_of_body {dialect : Dialect} {source : Text} {body : List Stmt}
    (legal : Token.problems (Token.ofText source) = [])
    (derived : Grammar.Body dialect (Token.beforeEnd (Token.ofText source)) body) :
    ∃ program, parse dialect source = .ok program ∧ program.body = body := by
  obtain ⟨clean, spelled⟩ :=
    (Program.ofTokens_iff_body dialect (Token.ofText source) body).mpr derived
  refine ⟨(Program.ofTokens dialect (Token.ofText source)).1, ?_, spelled⟩
  unfold parse
  simp only [legal]
  split
  · next diagnostic others found =>
    rw [found] at clean
    cases clean
  · next program found => rw [found]

/-- Printing an expression that has a value writes that on a line. -/
theorem Stmt.action_print (span : Span) {expr : Expr} {table : Table} {value : Float}
    (evaluates : expr.evaluate table = .ok value) :
    (Stmt.print span expr).action table =
      .ok (.perform (.script [Table.printedLine value] none)) := by
  rw [Stmt.action, evaluates]
  rfl

namespace Machine

/-- A line is written where there is room for any number of them. -/
theorem act_line (machine : Machine Console) (room : machine.console.room = none) (line : Text) :
    machine.act (.perform (.script [line] none)) =
      ({ machine with console :=
          { machine.console with written := machine.console.written ++ [line] } }, none) := by
  have taken : machine.console.write? line =
      some { machine.console with written := machine.console.written ++ [line] } := by
    unfold Console.write?
    simp only [room]
    split <;> rfl
  simp only [act, Performance.run_line, Output.write, taken, Option.map_none]

/-- A program of one statement that writes a line does so and does not fail. -/
theorem run_line (machine : Machine Console) (room : machine.console.room = none) {stmt : Stmt}
    {line : Text} (acts : stmt.action machine.table = .ok (.perform (.script [line] none))) :
    (machine.run [stmt]).2 = none ∧
      (machine.run [stmt]).1.console.written = machine.console.written ++ [line] := by
  have started := agrees_record machine (.started stmt.typeName stmt.span.start)
  have taken := (machine.record (.started stmt.typeName stmt.span.start)).act_line
    (started.console ▸ room) line
  rw [started.console] at taken
  have stepped : machine.step stmt =
      (machine.record (.started stmt.typeName stmt.span.start)).act
        (.perform (.script [line] none)) := by
    unfold step
    simp only [started.table, acts]
  rw [run, stepped, taken]
  exact ⟨rfl, rfl⟩

/-- A program of one statement that prints a number writes it on a line. -/
theorem run_print (machine : Machine Console) (room : machine.console.room = none) (span : Span)
    {expr : Expr} {value : Float} (evaluates : ∀ table, expr.evaluate table = .ok value) :
    (machine.run [.print span expr]).2 = none ∧
      (machine.run [.print span expr]).1.console.written =
        machine.console.written ++ [Table.printedLine value] :=
  machine.run_line room (Stmt.action_print span (evaluates _))

end Machine

/-! ### Printing and reading -/

/-- What is printed is told apart by what is printed of it. -/
theorem Number.format_injective {first second : Float} (number : first.isNaN = false)
    (number' : second.isNaN = false) (same : format first = format second) : first = second := by
  have read := ofNumeral?_format number
  rw [same, ofNumeral?_format number'] at read
  exact (Option.some.inj read).symm

/-- A program that prints the text of a finite number is parsed, and what it prints has that
number as its value. -/
theorem Session.parse_printing {value : Float} (finite : value.isFinite = true) :
    ∃ program span expr,
      parse .full (Text.ofString "print " ++ Number.format value ++ Text.ofString ";") =
        .ok program ∧
      program.body = [.print span expr] ∧ ∀ table, expr.evaluate table = .ok value := by
  obtain ⟨negative, mantissa, exponent, parts⟩ := (Number.isFinite_iff value).mp finite
  obtain ⟨numeral, written, settled, bits⟩ := Number.exists_numeral parts
  obtain ⟨printing⟩ := Token.exists_printing numeral negative
  rw [← written] at printing
  have denotes := numeral.ofNumeral?_chars settled false
  obtain ⟨span, expr, derived, evaluates⟩ := printing.exists_body denotes
  rw [bits, Number.signed_ofMagnitude parts] at evaluates
  obtain ⟨program, parsed, body⟩ := parse_of_body printing.legal derived
  exact ⟨program, span, expr, parsed, body, evaluates⟩

/-- Printed numbers read back. The text of a finite number has no illegal characters and is
one numeral, or a minus and a numeral when its sign bit is set. A program that prints it runs
to its end and writes it on a line again, and the number that it prints is the same to its
last bit, a negative zero among them. So no two numbers are printed alike. -/
theorem format_reads_back :
    (∀ value : Float, value.isFinite = true →
      (Token.ofText (Number.format value)).map Token.kind =
        (if Number.isNegative value then [.minus, .number, .endOfInput]
          else [.number, .endOfInput]) ∧
      Token.problems (Token.ofText (Number.format value)) = [] ∧
      ∃ program span expr,
        Session.parse .full (Text.ofString "print " ++ Number.format value ++ Text.ofString ";") =
          .ok program ∧
        program.body = [.print span expr] ∧ (∀ table, expr.evaluate table = .ok value) ∧
        ∀ machine : Machine Console, machine.console.room = none →
          (Session.exec ⟨.full, machine⟩
            (Text.ofString "print " ++ Number.format value ++ Text.ofString ";")).2 = none ∧
          (Session.exec ⟨.full, machine⟩
            (Text.ofString "print " ++ Number.format value ++ Text.ofString ";")
              ).1.machine.console.written =
            machine.console.written ++ [Number.format value ++ Text.ofString "\n"]) ∧
    ∀ first second : Float, first.isNaN = false → second.isNaN = false →
      Number.format first = Number.format second → first = second := by
  constructor
  · intro value finite
    obtain ⟨negative, mantissa, exponent, parts⟩ := (Number.isFinite_iff value).mp finite
    obtain ⟨numeral, written, -, -⟩ := Number.exists_numeral parts
    have kinds := Token.kinds_signed numeral negative
    rw [← written] at kinds
    rw [Number.isNegative_of_finite parts]
    refine ⟨kinds, ?_, ?_⟩
    · apply Token.problems_eq_nil
      rw [kinds]
      cases negative <;> simp
    · obtain ⟨program, span, expr, parsed, body, evaluates⟩ := Session.parse_printing finite
      refine ⟨program, span, expr, parsed, body, evaluates, ?_⟩
      intro machine room
      have run := machine.run_print room span evaluates
      have executed : (Session.mk .full machine).exec _ = _ := Session.exec_of_parse parsed
      rw [executed, body]
      exact run
  · intro first second number number' same
    exact Number.format_injective number number' same

/-- A negative zero is printed with its sign, and keeps it when it is read again. -/
theorem format_reads_back_negative_zero :
    (-0.0 : Float).isFinite = true ∧ Number.isNegative (-0.0) = true ∧
      Number.format (-0.0) = Text.ofString "-0" ∧
      (Token.ofText (Number.format (-0.0))).map Token.kind = [.minus, .number, .endOfInput] ∧
      (Session.exec (.new .full Console.unlimited .silent)
          (Text.ofString "print " ++ Number.format (-0.0) ++ Text.ofString ";")
            ).1.machine.console.written = [Number.format (-0.0) ++ Text.ofString "\n"] := by
  have finite : (-0.0 : Float).isFinite = true := by decide +kernel
  have negative : Number.isNegative (-0.0) = true := by decide +kernel
  have written : Number.format (-0.0) = Text.ofString "-0" := by decide +kernel
  obtain ⟨kinds, -, -, -, -, -, -, -, runs⟩ := format_reads_back.1 (-0.0) finite
  rw [negative] at kinds
  exact ⟨finite, negative, written, kinds, (runs _ rfl).2⟩

end Astro
