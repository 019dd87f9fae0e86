import Astro.Text.Blank
import Astro.Text.Letter
import Astro.Token

/-!
# From text to tokens

A text is first cut into pieces: each is either layout (one blank character, or
a comment up to the end of its line) or the glyphs of one token. A piece is the
longest that its first glyph allows. The pieces of a text are exactly its glyphs
again (`cut_glyphs`); nothing is skipped or read twice.

Then the pieces are placed: walking over them from the start of the text gives
every token its span, layout is left out, and a token for the end of the input
is added.
-/

namespace Astro

/-- A stretch of a text: layout when it has no kind, else one token. -/
structure Piece where
  kind : Option Token.Kind
  glyphs : List Glyph
deriving DecidableEq, Repr

namespace Piece

/-- Whether a glyph is one of the ten decimal digits. -/
def isDigit (glyph : Glyph) : Bool := glyph.value.isDigit

/-- Whether a glyph can start a word. Only a letter can, of whatever script it is. -/
def startsWord (glyph : Glyph) : Bool := Text.isLetter glyph.value

/-- Whether a glyph can stand inside a word. Besides letters these are digits and the underscore. -/
def continuesWord (glyph : Glyph) : Bool :=
  startsWord glyph || isDigit glyph || glyph.value == '_'

/-- Whether a text goes on with the character `c`. A stray byte counts as the replacement
character here. -/
def startsWith (c : Char) (glyphs : List Glyph) : Bool :=
  glyphs.head?.any (·.value == c)

/-- The length of the longest beginning of a list in a class of glyphs. -/
def countWhile (accepts : Glyph → Bool) (glyphs : List Glyph) : Nat :=
  (glyphs.takeWhile accepts).length

/-- The length of a point with digits behind it. A point without digits does not
belong to a numeral. -/
def fractionLength (glyphs : List Glyph) : Nat :=
  let digits := countWhile isDigit (glyphs.drop 1)
  if startsWith '.' glyphs ∧ 0 < digits then 1 + digits else 0

/-- The length of a sign, if there is one. It is asked for only behind the mark of an exponent,
since a sign before a number is an operator. -/
def signLength (glyphs : List Glyph) : Nat :=
  if startsWith '+' glyphs ∨ startsWith '-' glyphs then 1 else 0

/-- The length of an exponent: its mark, perhaps a sign, and digits. A mark
without digits does not belong to a numeral. -/
def exponentLength (glyphs : List Glyph) : Nat :=
  let sign := signLength (glyphs.drop 1)
  let digits := countWhile isDigit (glyphs.drop (1 + sign))
  if (startsWith 'e' glyphs ∨ startsWith 'E' glyphs) ∧ 0 < digits then 1 + sign + digits else 0

/-- The length of what continues a numeral behind its first digit. -/
def numeralLength (glyphs : List Glyph) : Nat :=
  let whole := countWhile isDigit glyphs
  let fraction := fractionLength (glyphs.drop whole)
  let exponent := exponentLength (glyphs.drop (whole + fraction))
  whole + fraction + exponent

/-- How many of the glyphs `rest` belong to the same piece as the glyph `first`
before them. -/
def extent (first : Glyph) (rest : List Glyph) : Nat :=
  if Text.isBlankGlyph first then 0
  else if first.value = '/' ∧ startsWith '/' rest then countWhile (·.value != '\n') rest
  else if isDigit first then numeralLength rest
  else if startsWord first then countWhile continuesWord rest
  else if first.value = '*' ∧ startsWith '*' rest then 1
  else 0

/-- The kind of the piece that starts with `first`, when `rest` are the glyphs
behind it: none for layout. -/
def kindAt (first : Glyph) (rest : List Glyph) : Option Token.Kind :=
  if Text.isBlankGlyph first then none
  else if first.value = '/' ∧ startsWith '/' rest then none
  else if isDigit first then some .number
  else if startsWord first then
    some (.ofWord (Text.ofGlyphs (first :: rest.take (countWhile continuesWord rest))))
  else if first.value = '*' ∧ startsWith '*' rest then some .power
  else some ((Token.Kind.ofSymbol? first.value).getD .illegal)

/-- The pieces of a list of glyphs, in order. Each piece takes its first glyph and as many behind
it as its kind reaches over, so that the pieces put together are the glyphs. -/
def cut : List Glyph → List Piece
  | [] => []
  | first :: rest =>
    ⟨kindAt first rest, first :: rest.take (extent first rest)⟩ :: cut (rest.drop (extent first rest))
termination_by glyphs => glyphs.length
decreasing_by
  simp only [List.length_drop, List.length_cons]
  omega

/-- The spelling of a piece. A stray byte is spelled as U+FFFD. -/
def lexeme (piece : Piece) : Text := Text.ofChars (piece.glyphs.map Glyph.value)

/-- The pieces of a list of glyphs are those glyphs again. -/
theorem cut_glyphs (glyphs : List Glyph) : (cut glyphs).flatMap Piece.glyphs = glyphs := by
  fun_induction cut glyphs with
  | case1 => rfl
  | case2 first rest remaining => simp [remaining, List.take_append_drop]

end Piece

namespace Text

/-- The pieces of a text, in order. -/
def pieces (text : Text) : List Piece := Piece.cut text.glyphs

end Text

namespace Token

/-- The tokens that pieces stand for when the first of them starts at `start`. -/
def place (start : Position) : List Piece → List Token
  | [] => [⟨.endOfInput, [], ⟨start, start⟩⟩]
  | piece :: rest =>
    let stop := start.after piece.glyphs
    match piece.kind with
    | none => place stop rest
    | some kind => ⟨kind, piece.lexeme, ⟨start, stop⟩⟩ :: place stop rest

/-- The tokens of a text. The last one, and only that one, is the end of the
input. -/
def ofText (text : Text) : List Token := place .start text.pieces

end Token

end Astro
