import Astro.Proofs.LastWords
import Astro.Proofs.Positions
import Astro.Proofs.RelocatedReading
import Astro.Proofs.RelocatedRun
import Astro.Proofs.Sessions
import Astro.Proofs.StatementSeams

/-!
# Programs in parts

A text whose last line is complete and whose last word is a semicolon can be put
before any other text. The tokens of both together are the tokens of the first and
then those of the second, moved by the length and the lines of the first. Nothing
before the seam is read differently and nothing behind it either, whether it is
accepted or refused. So running the parts one after another does what running the
whole does; only the places in failures differ by that move.
-/

namespace Astro

namespace Position

/-- The place that a position of a text has when other bytes that end in a newline are
put before the text. -/
def shift (before : Text) (position : Position) : Position where
  offset := position.offset + before.length
  line := position.line + before.count Text.newline
  column := position.column

/-- All offsets move by the same distance, so their order stays. -/
theorem shift_regular (before : Text) : Regular (shift before) := by
  intro first second
  have lower : (shift before second.start).offset < (shift before first.start).offset ↔
      second.start.offset < first.start.offset := by
    simp only [shift]
    omega
  have upper : (shift before first.stop).offset < (shift before second.stop).offset ↔
      first.stop.offset < second.stop.offset := by
    simp only [shift]
    omega
  simp only [Span.relocate, Span.join, lower, upper, apply_ite (shift before)]

/-- Steps are taken from moved positions as from the others. -/
theorem shift_step (before : Text) (position : Position) (glyph : Glyph) :
    (shift before position).step glyph = shift before (position.step glyph) := by
  by_cases ends : glyph.value = '\n'
  · rw [step, step, if_pos ends, if_pos ends]
    simp only [shift, Position.mk.injEq, and_true]
    omega
  · rw [step, step, if_neg ends, if_neg ends]
    simp only [shift, Position.mk.injEq, and_true]
    omega

/-- To read on from a shifted place ends at the shifted place where reading on ends. -/
theorem shift_after (before : Text) (position : Position) (glyphs : List Glyph) :
    (shift before position).after glyphs = shift before (position.after glyphs) := by
  induction glyphs generalizing position with
  | nil => rfl
  | cons first rest others =>
    have here := shift_step before position first
    rw [after, List.foldl_cons, here]
    exact others (position.step first)

end Position

namespace Token

open Text

/-- Pieces placed from a moved position are tokens that are moved. -/
theorem place_shift (before : Text) (start : Position) (pieces : List Piece) :
    place (start.shift before) pieces =
      (place start pieces).map (Token.relocate (Position.shift before)) := by
  induction pieces generalizing start with
  | nil => rfl
  | cons piece rest others =>
    have behind := others (start.after piece.glyphs)
    rw [place, place, Position.shift_after]
    cases piece.kind with
    | none => exact behind
    | some kind => exact congrArg (List.cons _) behind

end Token

section Lines

open Text

variable {first : Text}

/-- The pieces of a text do not reach over the end of a line. Behind a newline a character starts
and so does a piece, for the newline is a blank and belongs to no longer piece. -/
theorem Text.pieces_append (line : first.getLast? = some newline) (second : Text) :
    (first ++ second).pieces = first.pieces ++ second.pieces := by
  obtain ⟨front, rfl⟩ := List.getLast?_eq_some_iff.mp line
  have low : newline.toNat < 0x80 := by decide
  have atEnd : glyphs (front ++ [newline]) = glyphs front ++ [.char '\n'] := by
    have seam : Seam front [newline] := by
      refine .inr fun next starts => ?_
      cases starts
      exact low
    rw [glyphs_append seam, glyphs_newline, glyphs]
  have across : glyphs (front ++ [newline] ++ second) =
      glyphs (front ++ [newline]) ++ glyphs second := by
    refine glyphs_append (.inl fun last ends => ?_)
    rw [line] at ends
    cases ends
    exact low
  rw [pieces, pieces, pieces, across, atEnd, List.append_assoc]
  exact Piece.cut_append rfl (glyphs second)

/-- Behind lines that are complete, counting goes on from the moved start. -/
theorem Position.after_lines (line : first.getLast? = some newline) :
    start.after first.glyphs = start.shift first := by
  have walked := after_start_eq_recount (List.append_nil first.glyphs).symm
  have anew : lastLine first = [] := by
    obtain ⟨front, rfl⟩ := List.getLast?_eq_some_iff.mp line
    exact lastLine_concat_newline front
  rw [walked, glyphs_bytes, recount, List.take_length, anew, width, glyphs]
  simp [shift, start]

/-- The tokens of complete lines and of a text behind them are those of the lines and
then those of the text, moved. -/
theorem Token.exists_seam (line : first.getLast? = some newline) :
    ∃ words ending, words.map Token.kind = Piece.kinds first.pieces ∧ ending.kind = .endOfInput ∧
      ofText first = words ++ [ending] ∧ ∀ second,
        ofText (first ++ second) =
          words ++ (ofText second).map (Token.relocate (Position.shift first)) := by
  obtain ⟨words, kinds, placed⟩ := exists_words .start first.pieces
  have stop : Position.start.after (first.pieces.flatMap Piece.glyphs) =
      Position.start.shift first := by
    rw [pieces, Piece.cut_glyphs, Position.after_lines line]
  have alone := placed []
  rw [List.append_nil] at alone
  refine ⟨words, _, kinds, rfl, alone, fun second => ?_⟩
  rw [ofText, pieces_append line, placed, stop, place_shift, ofText]

end Lines

namespace Token

/-- What is wrong with the characters of moved tokens is reported at their places. -/
theorem problems_relocate (move : Position → Position) (tokens : List Token) :
    problems (tokens.map (Token.relocate move)) =
      (problems tokens).map (Diagnostic.relocate move) := by
  rw [problems, problems, List.filterMap_map, List.map_filterMap]
  congr 1
  funext token
  by_cases illegal : token.kind = .illegal
  · simp [illegal]
    rfl
  · simp [illegal]

/-- A text that has a token starts with one. The tokens that end the input stand behind all
others. -/
theorem going_of_spoken {text : Text} (spoken : ∃ token ∈ ofText text, token.kind ≠ .endOfInput) :
    (next (ofText text)).kind ≠ .endOfInput := by
  obtain ⟨words, ending, going, ends, tokens⟩ := exists_ending text
  obtain ⟨token, member, goes⟩ := spoken
  rw [tokens] at member ⊢
  cases words with
  | nil =>
    rw [List.mem_singleton.mp member] at goes
    exact absurd ends goes
  | cons first rest => exact going first List.mem_cons_self

end Token

namespace Reading

/-- The trees among moved outcomes are the moved trees. Moving makes no tree of a diagnostic, nor
the reverse. -/
theorem trees_relocate (move : Position → Position) (outcomes : List (Except Diagnostic Stmt)) :
    trees (outcomes.map (relocateResult move (Stmt.relocate move))) =
      (trees outcomes).map (Stmt.relocate move) := by
  rw [trees, trees, List.filterMap_map, List.map_filterMap]
  congr 1
  funext outcome
  cases outcome <;> rfl

/-- The diagnostics among moved outcomes are the moved diagnostics. Each is about the place to
which its statement was moved. -/
theorem diagnostics_relocate (move : Position → Position)
    (outcomes : List (Except Diagnostic Stmt)) :
    diagnostics (outcomes.map (relocateResult move (Stmt.relocate move))) =
      (diagnostics outcomes).map (Diagnostic.relocate move) := by
  rw [diagnostics, diagnostics, List.filterMap_map, List.map_filterMap]
  congr 1
  funext outcome
  cases outcome <;> rfl

end Reading

/-- A text that has tokens, all of them legal, gives what its statements give. -/
theorem Program.exists_ofText {text : Text} (legal : Token.problems (Token.ofText text) = [])
    (spoken : (Token.next (Token.ofText text)).kind ≠ .endOfInput) (dialect : Dialect) :
    ∃ program, ofText dialect text =
        (some program, Reading.diagnostics (Reading.statements dialect (Token.ofText text))) ∧
      program.body = Reading.trees (Reading.statements dialect (Token.ofText text)) := by
  refine ⟨(ofTokens dialect (Token.ofText text)).1, ?_, ?_⟩
  · rw [ofText, legal, ofTokens, if_neg spoken]
  · rw [ofTokens, if_neg spoken]

/-- Parts of a text that can be read one after the other: the first consists of complete
lines and statements, the second has tokens, and all characters are legal. -/
structure Parts (first second : Text) : Prop where
  legalFirst : Token.problems (Token.ofText first) = []
  legalSecond : Token.problems (Token.ofText second) = []
  line : first.getLast? = some Text.newline
  complete : endsStatement first = true
  spoken : ∃ token ∈ Token.ofText second, token.kind ≠ .endOfInput

namespace Parts

variable {first second : Text} (parts : Parts first second)

include parts

/-- The words of the first part are sealed, and the words of the second stand behind them, moved.
The first part is complete, so that its last token before the end is a semicolon, and what is read
of it does not depend on what follows. -/
theorem exists_sealed :
    ∃ words ending, Reading.Sealed words ∧ words ≠ [] ∧ ending.kind = .endOfInput ∧
      Token.ofText first = words ++ [ending] ∧
      Token.ofText (first ++ second) =
        words ++ (Token.ofText second).map (Token.relocate (Position.shift first)) := by
  obtain ⟨words, ending, kinds, ends, alone, across⟩ := Token.exists_seam parts.line
  have semicolon : (words.map Token.kind).getLast? = some .semicolon := by
    rw [kinds]
    exact (endsStatement_iff first).mp parts.complete
  have closed : Reading.Sealed words := by
    constructor
    · exact Token.going_of_kinds kinds
    · intro last atEnd
      rw [List.getLast?_map, Option.mem_def.mp atEnd] at semicolon
      exact Option.some.inj semicolon
  refine ⟨words, ending, closed, ?_, ends, alone, across second⟩
  rintro rfl
  cases semicolon

/-- All characters of the whole are legal. The characters of the two parts are read as they are
alone. -/
theorem legal : Token.problems (Token.ofText (first ++ second)) = [] := by
  obtain ⟨words, ending, -, -, ends, alone, across⟩ := parts.exists_sealed
  have before := parts.legalFirst
  rw [alone, Token.problems, List.filterMap_append] at before
  have behind := Token.problems_relocate (Position.shift first) (Token.ofText second)
  rw [parts.legalSecond] at behind
  rw [across, Token.problems, List.filterMap_append, (List.append_eq_nil_iff.mp before).1]
  exact behind

/-- The first part has a token, and so has the whole. -/
theorem going :
    (Token.next (Token.ofText first)).kind ≠ .endOfInput ∧
      (Token.next (Token.ofText (first ++ second))).kind ≠ .endOfInput := by
  obtain ⟨words, ending, closed, some, -, alone, across⟩ := parts.exists_sealed
  obtain ⟨word, others, rfl⟩ := List.exists_cons_of_ne_nil some
  have goes := closed.goes word List.mem_cons_self
  rw [alone, across]
  exact ⟨goes, goes⟩

/-- The statements of the whole are those of the first part and those of the second,
moved. -/
theorem statements_eq (dialect : Dialect) :
    Reading.statements dialect (Token.ofText (first ++ second)) =
      Reading.statements dialect (Token.ofText first) ++
        (Reading.statements dialect (Token.ofText second)).map
          (Reading.relocateResult (Position.shift first) (Stmt.relocate (Position.shift first))) := by
  obtain ⟨words, ending, closed, -, ends, alone, across⟩ := parts.exists_sealed
  have inSecond : ∃ token ∈ Token.ofText second, token.kind = .endOfInput := by
    obtain ⟨others, last, -, atEnd, tokens⟩ := Token.exists_ending second
    exact ⟨last, tokens ▸ List.mem_append_right others List.mem_cons_self, atEnd⟩
  have none : Reading.statements dialect [ending] = [] := Reading.statements_end dialect ends
  rw [across, alone, Reading.statements_append dialect closed,
    Reading.statements_append dialect closed, none, List.append_nil,
    Reading.statements_relocate (Position.shift_regular first) dialect inSecond]

/-- The whole is read as the first part and then as the second, moved, and everything
that is wrong with it is wrong with one of them. -/
theorem ofText_eq (dialect : Dialect) :
    ∃ front back whole,
      (Program.ofText dialect first).1 = some front ∧
      (Program.ofText dialect second).1 = some back ∧
      (Program.ofText dialect (first ++ second)).1 = some whole ∧
      whole.body = front.body ++ back.body.map (Stmt.relocate (Position.shift first)) ∧
      (Program.ofText dialect (first ++ second)).2 =
        (Program.ofText dialect first).2 ++
          (Program.ofText dialect second).2.map (Diagnostic.relocate (Position.shift first)) := by
  obtain ⟨front, readFront, frontBody⟩ :=
    Program.exists_ofText parts.legalFirst parts.going.1 dialect
  obtain ⟨back, readBack, backBody⟩ :=
    Program.exists_ofText parts.legalSecond (Token.going_of_spoken parts.spoken) dialect
  obtain ⟨whole, readWhole, wholeBody⟩ := Program.exists_ofText parts.legal parts.going.2 dialect
  rw [parts.statements_eq dialect, Reading.trees, List.filterMap_append] at wholeBody
  rw [parts.statements_eq dialect, Reading.diagnostics, List.filterMap_append] at readWhole
  refine ⟨front, back, whole, ?_, ?_, ?_, ?_, ?_⟩
  · rw [readFront]
  · rw [readBack]
  · rw [readWhole]
  · rw [wholeBody, frontBody, backBody, ← Reading.trees_relocate]
    rfl
  · rw [readWhole, readFront, readBack, ← Reading.diagnostics_relocate]
    rfl

end Parts

namespace Session

/-- Two runs end alike: they leave the same names and the same output, and both succeed
or fail in the same way, the one at the moved place of the other. -/
structure EndsAlike {σ : Type} (move : Position → Position)
    (whole parts : Session σ × Option Failure) : Prop where
  agrees : Machine.Agrees parts.1.machine whole.1.machine
  failure : whole.2 = parts.2.map (Failure.relocate move)

/-- Running a text in two parts equals running it whole. The whole is read as the one
part and then the other, moved, with the diagnostics of both in this order. If there
are none, then on any machine, whatever its output does, a failure of the first part is
that of the whole, and otherwise the second part ends like the whole. -/
theorem exec_parts {first second : Text} (parts : Parts first second) (dialect : Dialect) :
    (∃ front back whole,
      (Program.ofText dialect first).1 = some front ∧
      (Program.ofText dialect second).1 = some back ∧
      (Program.ofText dialect (first ++ second)).1 = some whole ∧
      whole.body = front.body ++ back.body.map (Stmt.relocate (Position.shift first)) ∧
      (Program.ofText dialect (first ++ second)).2 =
        (Program.ofText dialect first).2 ++
          (Program.ofText dialect second).2.map (Diagnostic.relocate (Position.shift first))) ∧
    ((Program.ofText dialect (first ++ second)).2 = [] →
      ∀ {σ : Type} [Output σ] (machine : Machine σ),
      match exec ⟨dialect, machine⟩ first with
      | (after, some failure) => exec ⟨dialect, machine⟩ (first ++ second) = (after, some failure)
      | (after, none) =>
        EndsAlike (Position.shift first) (exec ⟨dialect, machine⟩ (first ++ second))
          (after.exec second)) := by
  refine ⟨parts.ofText_eq dialect, fun fine {σ} _ machine => ?_⟩
  obtain ⟨front, back, whole, readFront, readBack, readWhole, body, diagnostics⟩ :=
    parts.ofText_eq dialect
  obtain ⟨fineFront, fineBack⟩ := List.append_eq_nil_iff.mp (diagnostics.symm.trans fine)
  have fineSecond := List.map_eq_nil_iff.mp fineBack
  have runFront := @exec_of_parse σ _ ⟨dialect, machine⟩ first front
    (parse_eq_ok_iff.mpr (Prod.ext readFront fineFront))
  have runWhole := @exec_of_parse σ _ ⟨dialect, machine⟩ (first ++ second) whole
    (parse_eq_ok_iff.mpr (Prod.ext readWhole fine))
  rw [runFront, runWhole, body, Machine.run_append]
  cases ran : machine.run front.body with
  | mk after failure =>
    cases failure with
    | some failure => rfl
    | none =>
      have runBack := @exec_of_parse σ _ ⟨dialect, after⟩ second back
        (parse_eq_ok_iff.mpr (Prod.ext readBack fineSecond))
      obtain ⟨agreed, failed⟩ :=
        (Machine.Agrees.refl after).run_relocate (Position.shift first) back.body
      simp only [runBack]
      exact ⟨agreed, failed⟩

/-- The first part may even break off inside a character, as long as that is in a comment. The
byte is the first of a character's two, and the newline behind it ends the comment all the same. -/
theorem exec_parts_broken_comment :
    ∃ first second : Text, first = Text.ofString "x=π;//" ++ [0xC3, Text.newline] ∧
      second = Text.ofString "print x;" ∧ Parts first second ∧
      (Program.ofText .full (first ++ second)).2 = [] ∧
      ∀ {σ : Type} [Output σ] (machine : Machine σ),
        match exec ⟨.full, machine⟩ first with
        | (after, some failure) => exec ⟨.full, machine⟩ (first ++ second) = (after, some failure)
        | (after, none) =>
          EndsAlike (Position.shift first) (exec ⟨.full, machine⟩ (first ++ second))
            (after.exec second) := by
  have parts : Parts (Text.ofString "x=π;//" ++ [0xC3, Text.newline]) (Text.ofString "print x;") := by
    constructor <;> decide +kernel
  have tokens : Token.ofText
      (Text.ofString "x=π;//" ++ [0xC3, Text.newline] ++ Text.ofString "print x;") =
        [⟨.name, [120], ⟨⟨0, 1, 1⟩, ⟨1, 1, 2⟩⟩⟩, ⟨.assign, [61], ⟨⟨1, 1, 2⟩, ⟨2, 1, 3⟩⟩⟩,
         ⟨.name, [207, 128], ⟨⟨2, 1, 3⟩, ⟨4, 1, 4⟩⟩⟩, ⟨.semicolon, [59], ⟨⟨4, 1, 4⟩, ⟨5, 1, 5⟩⟩⟩,
         ⟨.printWord, Text.ofString "print", ⟨⟨9, 2, 1⟩, ⟨14, 2, 6⟩⟩⟩,
         ⟨.name, [120], ⟨⟨15, 2, 7⟩, ⟨16, 2, 8⟩⟩⟩, ⟨.semicolon, [59], ⟨⟨16, 2, 8⟩, ⟨17, 2, 9⟩⟩⟩,
         ⟨.endOfInput, [], ⟨⟨17, 2, 9⟩, ⟨17, 2, 9⟩⟩⟩] := by
    decide +kernel
  have fine : (Program.ofText .full
      (Text.ofString "x=π;//" ++ [0xC3, Text.newline] ++ Text.ofString "print x;")).2 = [] := by
    obtain ⟨program, reads, -⟩ := Program.exists_ofText parts.legal parts.going.2 .full
    rw [reads, tokens]
    change Reading.diagnostics _ = []
    cbv
  exact ⟨_, _, rfl, rfl, parts, fine, fun machine => (exec_parts parts .full).2 fine machine⟩

end Session

end Astro
