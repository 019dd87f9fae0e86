import Astro.Proofs.Complaints
import Astro.Proofs.Endings
import Astro.Proofs.LongestMatch

/-!
# Excerpts of the source

An excerpt is cut out of its source by byte offsets, while the diagnostic carries a line
and a column that were counted on the way over the text. Here both are shown to agree for
everything that is reported: the line that is shown has the number in the heading, the
markers start below the column, and there are as many of them as the culprit has glyphs
in that line. No message and no hint holds a newline, so a report has as many lines as it
has parts.
-/

namespace Astro

namespace Text

/-- Where a line of a text starts: behind the lines before it, each with its newline. -/
def lineStart (text : Text) (row : Nat) : Nat :=
  ((text.lines.take row).flatMap (· ++ [newline])).length

/-- A newline ends the last line of what stands before it. -/
theorem lines_newline (before rest : Text) :
    (before ++ newline :: rest).lines = before.lines ++ rest.lines := by
  induction before with
  | nil => simp [lines]
  | cons byte others shorter =>
    by_cases ends : byte = newline
    · simp [lines, ends, shorter]
    · obtain ⟨line, more, split⟩ := List.exists_cons_of_ne_nil (lines_ne_nil others)
      rw [split] at shorter
      simp [lines, ends, shorter, split]

/-- The first of the lines stands before the first newline. -/
theorem head_lines (text : Text) : text.lines[0]? = some text.firstLine := by
  induction text with
  | nil => rfl
  | cons byte rest first =>
    by_cases ends : byte = newline
    · simp [lines, firstLine, ends]
    · obtain ⟨line, more, split⟩ := List.exists_cons_of_ne_nil (lines_ne_nil rest)
      rw [split] at first
      simpa [lines, firstLine, ends, split] using first

/-- The lines, each with its newline, are the text with one more newline. -/
theorem flatMap_lines (text : Text) : text.lines.flatMap (· ++ [newline]) = text ++ [newline] := by
  induction text with
  | nil => rfl
  | cons byte rest shorter =>
    by_cases ends : byte = newline
    · simp [lines, ends, shorter]
    · obtain ⟨line, more, split⟩ := List.exists_cons_of_ne_nil (lines_ne_nil rest)
      rw [split] at shorter
      simpa [lines, ends, split] using shorter

/-- The last line of a text is all of it, or what stands behind a newline.

Proof: induction on the text from its end. A newline at the end leaves an empty last line, and any
other byte belongs to the last line of what stands before it. -/
theorem lastLine_cases (text : Text) :
    newline ∉ text ∧ text.lastLine = text ∨
      ∃ before last, text = before ++ newline :: last ∧ newline ∉ last ∧ text.lastLine = last := by
  induction text using List.reverseRecOn with
  | nil => exact .inl ⟨List.not_mem_nil, rfl⟩
  | append_singleton earlier byte cases =>
    by_cases ends : byte = newline
    · subst ends
      exact .inr ⟨earlier, [], rfl, List.not_mem_nil, lastLine_concat_newline earlier⟩
    · have none : newline ∉ [byte] := fun same => ends (List.mem_singleton.mp same).symm
      rw [lastLine_append none]
      rcases cases with ⟨plain, whole⟩ | ⟨before, last, rfl, plain, behind⟩
      · rw [whole]
        exact .inl ⟨List.not_mem_append plain none, rfl⟩
      · rw [behind]
        exact .inr ⟨before, last ++ [byte], by simp, List.not_mem_append plain none, rfl⟩

/-- The line in which a text is cut has as many lines before it as there are newlines
before the cut, and it starts where its part before the cut does. -/
theorem line_of_cut (front back : Text) :
    (front ++ back).lines[front.count newline]? = some (front.lastLine ++ back.firstLine) ∧
      (front ++ back).lineStart (front.count newline) + front.lastLine.length = front.length := by
  have first {last : Text} (plain : newline ∉ last) :
      (last ++ back).firstLine = last ++ back.firstLine := by
    refine List.takeWhile_append_of_pos fun byte member => ?_
    simpa using ne_of_mem_of_not_mem member plain
  rcases front.lastLine_cases with ⟨plain, whole⟩ | ⟨before, last, rfl, plain, behind⟩
  · rw [whole, List.count_eq_zero_of_not_mem plain, head_lines, first plain]
    exact ⟨rfl, Nat.zero_add _⟩
  · have row : (before ++ newline :: last).count newline = before.lines.length := by
      rw [length_lines, List.count_append, List.count_cons_self,
        List.count_eq_zero_of_not_mem plain]
    rw [behind, row, lineStart, List.append_assoc, List.cons_append, lines_newline,
      List.take_left, flatMap_lines, List.getElem?_append_right (Nat.le_refl _), Nat.sub_self,
      head_lines, first plain]
    refine ⟨rfl, ?_⟩
    simp only [List.length_append, List.length_cons, List.length_nil]
    omega

/-- The line in which a text is cut between two glyphs is read apart on both sides of the cut.
Behind the line stands a newline or nothing, so it is also read apart from what follows it. -/
theorem glyphs_of_cut {text : Text} {front back : List Glyph}
    (reads : text.glyphs = front ++ back) :
    glyphs ((ofGlyphs front).lastLine ++ (ofGlyphs back).firstLine) =
      glyphs (ofGlyphs front).lastLine ++ glyphs (ofGlyphs back).firstLine := by
  have plain : ∀ glyph ∈ front, newline ∈ glyph.bytes ↔ glyph.value = '\n' := fun glyph member =>
    newline_mem_bytes_iff (reads ▸ List.mem_append_left back member)
  have before : front.rdropWhile (·.value ≠ '\n') ++ lastGlyphs front = front :=
    List.rdropWhile_append_rtakeWhile ..
  have behind : Seam (ofGlyphs back).firstLine ((ofGlyphs back).dropWhile (· != newline)) := by
    refine .inr fun next head => ?_
    have ends := List.head?_dropWhile_not (· != newline) (ofGlyphs back)
    rw [Option.mem_def.mp head] at ends
    obtain rfl : next = newline := by simpa using ends
    decide
  have later := glyphs_append behind
  rw [firstLine, List.takeWhile_append_dropWhile, glyphs_of_behind reads, ← firstLine] at later
  have whole : text.glyphs = front.rdropWhile (·.value ≠ '\n') ++
      ((lastGlyphs front ++ glyphs (ofGlyphs back).firstLine) ++
        glyphs ((ofGlyphs back).dropWhile (· != newline))) := by
    rw [List.append_assoc, ← later, ← List.append_assoc, before, reads]
  have line := glyphs_of_front (glyphs_of_behind whole)
  have lead := glyphs_of_front line
  rw [ofGlyphs_append, glyphs_bytes] at line
  rw [lastLine_ofGlyphs plain, line, lead]

/-- The blank that stands under a character: a tab under a tab, a space under any other. -/
def blankUnder (c : Char) : Char := if c = '\t' then '\t' else ' '

/-- An indent is made of the blanks under the characters of a text. -/
theorem indentLike_eq (text : Text) :
    Diagnostic.indentLike text = ofChars (text.chars.map blankUnder) := by
  have tab : ofString "\t" = ofChar '\t' := by decide
  have space : ofString " " = ofChar ' ' := by decide
  rw [Diagnostic.indentLike, ofChars, chars, List.map_map, List.flatMap_map, tab, space]
  congr 1
  funext glyph
  rw [Function.comp_apply, blankUnder]
  split <;> rfl

end Text

open Text

/-- A line of a source, cut at the culprit of a diagnostic. It is the line whose number the
diagnostic carries, and the culprit starts in its column. The culprit is what stands under
the span, up to the end of the line. -/
structure Diagnostic.Picture (diagnostic : Diagnostic) (source : Text) where
  row : Nat
  indent : Nat
  before : Text
  culprit : Text
  behind : Text
  /-- The span starts in the source and does not end before it starts. -/
  placed : diagnostic.pointsInto source.length = true
  numbered : diagnostic.span.start.line = row + 1 ∧
    source.lines[row]? = some (before ++ culprit ++ behind)
  /-- The columns before that of the culprit are taken by what stands before it. -/
  indented : diagnostic.span.start.column = indent + 1 ∧
    indent ≤ (before ++ culprit ++ behind).chars.length ∧
    (before ++ culprit ++ behind).chars.take indent = before.chars
  starts : diagnostic.span.start.offset = source.lineStart row + before.length
  under : culprit = source.slice diagnostic.span.start.offset.toNat
    (min diagnostic.span.stop.offset.toNat
      (source.lineStart row + (before ++ culprit ++ behind).length))

namespace Diagnostic

section Picture

variable {diagnostic : Diagnostic} {source : Text}

/-- The line that is pictured. The culprit stands in it, between what is before and behind. -/
def Picture.line (picture : diagnostic.Picture source) : Text :=
  picture.before ++ picture.culprit ++ picture.behind

/-- The line as it is shown. In color, a culprit is put between two control sequences. -/
def Picture.shown (picture : diagnostic.Picture source) (color : Bool) : Text :=
  if color ∧ picture.culprit ≠ [] then
    picture.before ++ Text.ofString "\x1b[1;4m" ++ picture.culprit ++ Text.ofString "\x1b[m" ++
      picture.behind
  else picture.line

/-- The line of markers: a blank under each character before the culprit, and a caret for
each glyph of the culprit, but at least one. -/
def Picture.markers (picture : diagnostic.Picture source) : Text :=
  Text.ofChars ((picture.line.chars.take picture.indent).map Text.blankUnder ++
    List.replicate (max 1 picture.culprit.width) '^')

/-- The picture with a heading, the markers and the hint, if there is one. -/
def Picture.excerpt (picture : diagnostic.Picture source) (name : Text) (color : Bool) : Text :=
  name ++ Text.ofString ", line " ++ Text.ofInt diagnostic.span.start.line ++ Text.ofString ": " ++
    diagnostic.message ++ Text.ofString "\n" ++ picture.shown color ++ Text.ofString "\n" ++
    picture.markers ++
    match diagnostic.hint with
    | none => []
    | some hint => Text.ofString "\nhint: " ++ hint

/-- The culprit is cut off the rest of its line by the length of the span. -/
theorem culprit_eq (diagnostic : Diagnostic) (source : Text) :
    diagnostic.culprit source = (diagnostic.trail source).take
      (diagnostic.span.stop.offset.toNat - diagnostic.span.start.offset.toNat) :=
  List.take_takeWhile.symm

/-- Behind the culprit stands what is left of its line. -/
theorem culprit_append (diagnostic : Diagnostic) (source : Text) :
    diagnostic.culprit source ++
      (diagnostic.trail source).drop (diagnostic.culprit source).length =
        diagnostic.trail source := by
  obtain ⟨rest, split⟩ : diagnostic.culprit source <+: diagnostic.trail source := by
    rw [culprit_eq]
    exact List.take_prefix _ _
  rw [← split, List.drop_left]

/-- What stands before the culprit is read apart from the rest of the line. -/
theorem chars_lead (placed : diagnostic.span.LiesIn source) :
    (diagnostic.lead source ++ diagnostic.trail source).chars =
      (diagnostic.lead source).chars ++ (diagnostic.trail source).chars := by
  obtain ⟨front, back, reads, offset⟩ := placed.start.boundary
  have start : diagnostic.span.start.offset.toNat = (ofGlyphs front).length := by omega
  have first : source.take (ofGlyphs front).length = ofGlyphs front := by
    rw [congrArg (List.take _) (bytes_of_reads reads), List.take_left]
  rw [lead, trail, start, first, drop_of_reads reads, chars, glyphs_of_cut reads, List.map_append]
  rfl

/-- The line that is shown is the one in which the source is cut at the culprit. -/
theorem line_eq (placed : diagnostic.span.LiesIn source) :
    let row := (source.take diagnostic.span.start.offset.toNat).count newline
    source.lines[row]? = some (diagnostic.lead source ++ diagnostic.trail source) ∧
      source.lineStart row + (diagnostic.lead source).length =
        diagnostic.span.start.offset.toNat := by
  have bounds := placed.start.bounded
  have line := line_of_cut (source.take diagnostic.span.start.offset.toNat)
    (source.drop diagnostic.span.start.offset.toNat)
  rw [List.take_append_drop, List.length_take, Nat.min_eq_left (by omega)] at line
  exact line

/-- The picture of a diagnostic whose span lies in the source. -/
def picture (placed : diagnostic.span.LiesIn source) : diagnostic.Picture source where
  row := (source.take diagnostic.span.start.offset.toNat).count newline
  indent := (diagnostic.lead source).width
  before := diagnostic.lead source
  culprit := diagnostic.culprit source
  behind := (diagnostic.trail source).drop (diagnostic.culprit source).length
  placed := by
    have bounds := placed.start.bounded
    exact decide_eq_true ⟨bounds.1, bounds.2, placed.ordered⟩
  numbered := by
    have counted := congrArg Position.line placed.start.counted
    rw [List.append_assoc, culprit_append, (line_eq placed).1]
    exact ⟨counted.trans (Int.add_comm ..), rfl⟩
  indented := by
    have counted := congrArg Position.column placed.start.counted
    have width : (diagnostic.lead source).chars.length = (diagnostic.lead source).width :=
      List.length_map ..
    rw [List.append_assoc, culprit_append, chars_lead placed, List.length_append, width]
    exact ⟨counted.trans (Int.add_comm ..), Nat.le_add_right _ _, List.take_left' width⟩
  starts := by
    have start := (line_eq placed).2
    have bounds := placed.start.bounded
    omega
  under := by
    have start := (line_eq placed).2
    have stop : source.lineStart ((source.take diagnostic.span.start.offset.toNat).count newline) +
        (diagnostic.lead source ++ diagnostic.trail source).length -
          diagnostic.span.start.offset.toNat = (diagnostic.trail source).length := by
      rw [List.length_append]
      omega
    obtain ⟨rest, split⟩ : diagnostic.trail source <+:
        source.drop diagnostic.span.start.offset.toNat := List.takeWhile_prefix _
    rw [List.append_assoc, culprit_append, slice, ← Nat.sub_min_sub_right, stop, ← List.take_take,
      ← split, List.take_left, culprit_eq]

/-- What is shown of a diagnostic in its source is its picture. The line is put together from what
leads up to the culprit, the culprit and what trails it, and the markers stand below the culprit. -/
theorem excerpt_eq (placed : diagnostic.span.LiesIn source) (name : Text) (color : Bool) :
    diagnostic.excerpt name source color = (picture placed).excerpt name color := by
  have line : (picture placed).line = diagnostic.lead source ++ diagnostic.trail source := by
    rw [Picture.line, picture, List.append_assoc, culprit_append]
  have shown : (picture placed).shown color = diagnostic.excerptLine source color := by
    rw [Picture.shown, line]
    rfl
  have markers : (picture placed).markers = diagnostic.markerLine source := by
    have first := (picture placed).indented.2.2
    rw [Picture.markers, Picture.line, first, markerLine, indentLike_eq, ofChars,
      List.flatMap_append]
    rfl
  rw [excerpt, if_pos (picture placed).placed, ← shown, ← markers]
  rfl

end Picture

end Diagnostic

/-! ### Wordings without a newline -/

namespace Text

/-- Characters that are no newlines hold no newline byte. The newline byte is not shared with any
longer character. -/
theorem newline_not_mem_ofChars {cs : List Char} (plain : '\n' ∉ cs) : newline ∉ ofChars cs := by
  rwa [newline_mem_iff, chars_ofChars]

/-- Three parts without a newline have none together. Most messages are put together in this way. -/
theorem newline_not_mem_between {front middle back : Text} (first : newline ∉ front)
    (inside : newline ∉ middle) (last : newline ∉ back) : newline ∉ front ++ middle ++ back :=
  List.not_mem_append (List.not_mem_append first inside) last

/-- A number is written without a newline. It consists of digits, perhaps with a sign before them.
-/
theorem newline_not_mem_ofInt (number : Int) : newline ∉ ofInt number := by
  have digits (n : Nat) : newline ∉ ofNat n := by
    refine newline_not_mem_ofChars fun member => ?_
    exact absurd (Nat.isDigit_of_mem_toDigits (by decide) (by decide) member) (by decide)
  cases number with
  | ofNat n => exact digits n
  | negSucc n => exact List.not_mem_append (by decide) (digits (n + 1))

end Text

namespace Token

variable {text : Text} {token : Token}

/-- No token of a text holds a newline. What can stand inside a token is no white space, and the
replacement character is not a newline either. -/
theorem newline_not_mem_lexeme (member : token ∈ ofText text) (going : token.kind ≠ .endOfInput) :
    newline ∉ token.lexeme := by
  obtain ⟨first, rest, scanned⟩ := exists_scannedFrom member going
  exact scanned.unspaced.1.line

/-- A token of a text is referred to without a newline. -/
theorem newline_not_mem_describe (member : token ∈ ofText text) : newline ∉ token.describe := by
  unfold describe
  split
  · decide
  · next going =>
    have lexeme := newline_not_mem_lexeme member going
    exact newline_not_mem_between (by decide) lexeme (by decide)

end Token

/-- A diagnostic whose message and hint each fit on a line. -/
structure Diagnostic.Flat (diagnostic : Diagnostic) : Prop where
  message : newline ∉ diagnostic.message
  hint : ∀ hint, diagnostic.hint = some hint → newline ∉ hint

/-- Without a hint only the message has to fit. -/
theorem Diagnostic.flat_of_message {diagnostic : Diagnostic}
    (message : newline ∉ diagnostic.message) (none : diagnostic.hint = none) :
    diagnostic.Flat := by
  refine ⟨message, fun hint advised => ?_⟩
  rw [none] at advised
  cases advised

/-- A problem with a token of a text is worded without a newline.

Proof: by the problem. Its words are fixed but for what is said of the token, which is described
without a newline. A lexeme is quoted only of a token that covers glyphs on one line. -/
theorem Diagnostic.Concerns.flat {diagnostic : Diagnostic} {text : Text}
    (concerns : diagnostic.Concerns (Token.ofText text)) : diagnostic.Flat := by
  obtain ⟨problem, token, member, cause, rfl⟩ := concerns
  have found := Token.newline_not_mem_describe member
  cases cause with
  | character illegal =>
    have lexeme := Token.newline_not_mem_lexeme member (by simp [illegal])
    exact flat_of_message (newline_not_mem_between (by decide) lexeme (by decide)) rfl
  | empty ends => exact flat_of_message (by decide : newline ∉ Problem.emptyProgram.message) rfl
  | @expected wanted _ closes other =>
    have kind : newline ∉ wanted.text := by
      rcases closes with rfl | rfl <;> decide
    refine flat_of_message (List.not_mem_append ?_ found) rfl
    exact newline_not_mem_between (by decide) kind (by decide)
  | statement => exact flat_of_message (List.not_mem_append (by decide) found) rfl
  | expression =>
    refine ⟨List.not_mem_append (by decide) found, fun hint advised => ?_⟩
    simp only [Problem.diagnostic, Problem.hint] at advised
    split at advised
    · next keyword =>
      have going : token.kind ≠ .endOfInput := by
        intro ends
        rw [ends] at keyword
        cases keyword
      cases advised
      have lexeme := Token.newline_not_mem_lexeme member going
      exact newline_not_mem_between (by decide) lexeme (by decide)
    · cases advised
  | @assignOrCall name among going =>
    have lexeme := Token.newline_not_mem_lexeme among going
    refine flat_of_message (List.not_mem_append ?_ found) rfl
    exact newline_not_mem_between (by decide) lexeme (by decide)
  | negation minus =>
    refine ⟨(by decide : newline ∉ Problem.negationDisabled.message), fun hint advised => ?_⟩
    cases advised
    decide
  | numeral numeric meaningless =>
    have lexeme := Token.newline_not_mem_lexeme member (by simp [numeric])
    exact flat_of_message (newline_not_mem_between (by decide) lexeme (by decide)) rfl

/-- A failed check repeats no spelling but that of the name that it is about. -/
theorem Expr.Offends.newline_not_mem_message {table : Table} {expr : Expr} {cause : Fault.Cause}
    {offender : Offender} (offends : expr.Offends table cause offender)
    (plain : ∀ occurrence, offender = .name occurrence → newline ∉ occurrence.text) :
    newline ∉ cause.message := by
  induction offends with
  | @unbound name => exact List.not_mem_append (plain name rfl) (by decide)
  | @unboundCallee _ _ callee => exact List.not_mem_append (plain callee rfl) (by decide)
  | operand _ inside => exact inside plain
  | left _ inside => exact inside plain
  | right _ _ inside => exact inside plain
  | argument _ _ inside => exact inside plain
  | noNumber => decide
  | noFunction => decide
  | count => decide

/-- A failed check of a statement repeats no spelling but that of the name that it is
about. -/
theorem Stmt.Offends.newline_not_mem_message {table : Table} {stmt : Stmt} {cause : Fault.Cause}
    {offender : Offender} (offends : stmt.Offends table cause offender)
    (plain : ∀ occurrence, offender = .name occurrence → newline ∉ occurrence.text) :
    newline ∉ cause.message := by
  cases offends with
  | assigned inside => exact inside.newline_not_mem_message plain
  | argument _ _ inside => exact inside.newline_not_mem_message plain
  | printed inside => exact inside.newline_not_mem_message plain
  | @notWritable _ target => exact List.not_mem_append (plain target rfl) (by decide)
  | @unboundCallee _ called => exact List.not_mem_append (plain called.callee rfl) (by decide)
  | cannotAssign => decide
  | noProcedure => decide
  | count => decide

/-- A failed check of a statement of a text is worded without a newline. -/
theorem Diagnostic.Points.flat {diagnostic : Diagnostic} {dialect : Dialect} {text : Text}
    {table : Table} {stmt : Stmt} (points : diagnostic.Points dialect text table stmt) :
    diagnostic.Flat := by
  obtain ⟨cause, offender, offends, rfl, pointed⟩ := points.blames
  refine flat_of_message (offends.newline_not_mem_message ?_) rfl
  rintro occurrence rfl
  obtain ⟨spelled, token, member, named, place⟩ := pointed
  have going := (Reading.inside_of_isName named).2
  rw [← spelled, ← place, Token.under_of_mem member named.legal]
  exact Token.newline_not_mem_lexeme member going

/-! ### Reports -/

/-- What a session reports of a source: a diagnostic about the text, or of the check that
fails when the text runs. -/
def Session.Reports {σ : Type} [Output σ] (session : Session σ) (source : Text)
    (diagnostic : Diagnostic) : Prop :=
  diagnostic ∈ (Program.ofText session.dialect source).2 ∨
    ∃ failure, (session.exec source).2 = some failure ∧ failure.diagnostic? = some diagnostic

/-- The number of lines of a report: the heading alone, or with the line and the markers,
and with the hint if there is one. -/
def Diagnostic.height (diagnostic : Diagnostic) (context : Bool) : Nat :=
  if context then if diagnostic.hint = none then 3 else 4 else 1

namespace Diagnostic

variable {diagnostic : Diagnostic} {source name : Text}

/-- A line is shown without a newline. -/
theorem Picture.newline_not_mem_shown (picture : diagnostic.Picture source) (color : Bool) :
    newline ∉ picture.shown color := by
  have line : newline ∉ picture.line :=
    newline_not_mem_of_mem_lines (List.mem_of_getElem? picture.numbered.2)
  unfold shown
  split
  · simp only [Picture.line, List.mem_append, not_or] at line
    obtain ⟨⟨before, culprit⟩, behind⟩ := line
    simp only [List.mem_append, not_or]
    exact ⟨⟨⟨⟨before, by decide⟩, culprit⟩, by decide⟩, behind⟩
  · exact line

/-- Markers are blanks and carets. Tabs of the line are kept among them, and neither these nor the
others are newlines. -/
theorem Picture.newline_not_mem_markers (picture : diagnostic.Picture source) :
    newline ∉ picture.markers := by
  refine newline_not_mem_ofChars fun member => ?_
  rcases List.mem_append.mp member with blank | caret
  · obtain ⟨c, -, same⟩ := List.mem_map.mp blank
    unfold blankUnder at same
    split at same <;> exact absurd same (by decide)
  · exact absurd (List.eq_of_mem_replicate caret) (by decide)

/-- The parts of an excerpt stand on lines of their own. The newline behind the line that is shown
and the one before a hint are the only ones, as none of the parts has one. -/
theorem Picture.count_excerpt (picture : diagnostic.Picture source) (flat : diagnostic.Flat)
    (plain : newline ∉ name) (color : Bool) :
    (picture.excerpt name color).count newline + 1 = diagnostic.height true := by
  have none {part : Text} (absent : newline ∉ part) : part.count newline = 0 :=
    List.count_eq_zero_of_not_mem absent
  have heading : (Text.ofString ", line ").count newline = 0 := by decide
  have colon : (Text.ofString ": ").count newline = 0 := by decide
  have ending : (Text.ofString "\n").count newline = 1 := by decide
  have advice : (Text.ofString "\nhint: ").count newline = 1 := by decide
  rw [Picture.excerpt]
  simp only [List.count_append, heading, colon, ending, none plain, none flat.message,
    none (newline_not_mem_ofInt _), none (picture.newline_not_mem_shown color),
    none picture.newline_not_mem_markers]
  cases given : diagnostic.hint with
  | none => simp [height, given]
  | some hint => simp [height, given, advice, none (flat.hint hint given)]

/-- A diagnostic is told on one line: the place where it is found, a colon and the message. -/
theorem newline_not_mem_text (flat : diagnostic.Flat) : newline ∉ diagnostic.text := by
  have line := newline_not_mem_ofInt diagnostic.span.start.line
  have column := newline_not_mem_ofInt diagnostic.span.start.column
  have place : newline ∉ diagnostic.span.start.text :=
    newline_not_mem_between line (by decide) column
  exact newline_not_mem_between place (by decide) flat.message

end Diagnostic

/-- A report ends with a newline, and holds one more than what is shown of the failure. -/
theorem Failure.count_report {failure : Failure} {diagnostic : Diagnostic}
    (same : failure.diagnostic? = some diagnostic) (source name : Text) (context color : Bool) :
    (failure.report source name context color).getLast? = some newline ∧
      (failure.report source name context color).count newline =
        (if context then diagnostic.excerpt name source color else diagnostic.text).count newline +
          1 := by
  have ending : Text.ofString "\n" = [newline] := by decide
  have red : (Text.ofString "\x1b[31m").count newline = 0 := by decide
  have reset : (Text.ofString "\x1b[0m").count newline = 0 := by decide
  simp only [report, same, ending]
  refine ⟨List.getLast?_concat, ?_⟩
  rw [List.count_append, List.count_singleton_self]
  cases color with
  | false => rfl
  | true => simp only [if_true, List.count_append, red, reset, Nat.zero_add, Nat.add_zero]

namespace Session

variable {σ : Type} [Output σ] {session : Session σ} {source : Text} {diagnostic : Diagnostic}

/-- What is reported of a source lies in it and is worded without a newline.

Proof: a source that is refused reports one of its diagnostics, which are about its tokens. A run
that fails reports the statement that fails, at an offender in it. -/
theorem Reports.placed_flat (reported : session.Reports source diagnostic) :
    diagnostic.span.LiesIn source ∧ diagnostic.Flat := by
  have refused (member : diagnostic ∈ (Program.ofText session.dialect source).2) :
      diagnostic.span.LiesIn source ∧ diagnostic.Flat :=
    ⟨Program.liesIn_of_mem member, (Program.concerns_of_mem member).flat⟩
  rcases reported with member | ⟨failure, failed, reported⟩
  · exact refused member
  · cases parsed : parse session.dialect source with
    | error refusal =>
      obtain ⟨first, member, rfl⟩ := exists_diagnostic parsed
      rw [exec_of_refused parsed] at failed
      cases failed
      cases reported
      exact refused member
    | ok program =>
      rw [exec_of_parse parsed] at failed
      have ran : session.machine.run program.body =
          ((session.machine.run program.body).1, some failure) := Prod.ext rfl failed
      obtain ⟨before, stmt, later, reached, split, -, stepped⟩ := Machine.exists_failing ran
      have member : stmt ∈ program.body := by
        rw [split]
        exact List.mem_append_right before List.mem_cons_self
      have points := points_of_step parsed member stepped reported
      exact ⟨points.placed, points.flat⟩

/-- Every excerpt shows the right line and column. What is reported of a source is pictured
in the line whose number it carries, at the column that it carries, and the excerpt is this
picture with a heading, markers and the hint, in color or not. Under a name without a
newline, a report is one line by itself, three lines with its context, and four when that
has a hint. -/
theorem excerpt_of_reports (reported : session.Reports source diagnostic) :
    ∃ picture : diagnostic.Picture source,
      (∀ name color, diagnostic.excerpt name source color = picture.excerpt name color) ∧
      ∀ (name : Text) (failure : Failure), newline ∉ name →
        failure.diagnostic? = some diagnostic → ∀ context color,
          (failure.report source name context color).getLast? = some newline ∧
          (failure.report source name context color).count newline =
            diagnostic.height context := by
  obtain ⟨placed, flat⟩ := reported.placed_flat
  refine ⟨Diagnostic.picture placed, Diagnostic.excerpt_eq placed, ?_⟩
  intro name failure plain same context color
  obtain ⟨ends, counted⟩ := Failure.count_report same source name context color
  refine ⟨ends, counted.trans ?_⟩
  cases context with
  | false =>
    have text := List.count_eq_zero_of_not_mem (Diagnostic.newline_not_mem_text flat)
    exact congrArg (· + 1) text
  | true =>
    rw [if_pos rfl, Diagnostic.excerpt_eq placed]
    exact (Diagnostic.picture placed).count_excerpt flat plain color

/-- A character that starts no token, behind a tab and a letter of two bytes. The tab is kept in
the line, and the sign of three bytes is marked by a single caret. -/
theorem excerpt_of_reports_euro :
    ∃ (session : Session Console) (source : Text) (diagnostic : Diagnostic),
      source = Text.ofString "y = x;\n\tü = €;" ∧ session.Reports source diagnostic ∧
      ∃ picture : diagnostic.Picture source, picture.line = Text.ofString "\tü = €;" ∧
        diagnostic.excerpt [] source true = picture.excerpt [] true ∧
        newline ∉ ([] : Text) ∧ (Failure.notAProgram diagnostic).diagnostic? = some diagnostic ∧
        ((Failure.notAProgram diagnostic).report source [] true false).count newline = 3 := by
  have reported : (Session.new .full Console.unlimited .silent).Reports
      (Text.ofString "y = x;\n\tü = €;")
      ((Problem.unexpectedCharacter (Text.ofString "€")).diagnostic ⟨⟨13, 2, 6⟩, ⟨16, 2, 7⟩⟩) :=
    .inl (by decide +kernel)
  obtain ⟨picture, shown, counted⟩ := excerpt_of_reports reported
  have row : picture.row = 1 := by
    have number : (2 : Int) = picture.row + 1 := picture.numbered.1
    omega
  have line : (Text.ofString "y = x;\n\tü = €;").lines[1]? = some (Text.ofString "\tü = €;") := by
    decide +kernel
  have pictured := picture.numbered.2
  rw [row, line] at pictured
  exact ⟨_, _, _, rfl, reported, picture, (Option.some.inj pictured).symm, shown [] true,
    List.not_mem_nil, rfl, (counted [] _ List.not_mem_nil rfl true false).2⟩

end Session

end Astro
