import Astro.Text.Lines

/-!
# Positions and spans

A position names a place in a text three times: by its byte offset, its line
and its column, the last two counted from one. A span is the stretch between
two positions. Both are plain records of integers: a span that comes from
outside may lie anywhere, or end before it starts.

Walking over glyphs moves a position (`Position.after`): every glyph is one
column wide, and a newline starts the next line.
-/

namespace Astro

/-- A place in a text. The offset counts bytes from zero, and line and column count from one. -/
structure Position where
  offset : Int
  line : Int
  column : Int
deriving DecidableEq, Repr, Inhabited

namespace Position

/-- The place before the first character of a text. Offsets count from zero, and lines and columns
from one. -/
def start : Position := ⟨0, 1, 1⟩

/-- The place that no text has; it stands where there is nothing to point at. -/
def nowhere : Position := ⟨0, 0, 0⟩

/-- The place behind one glyph. The offset counts bytes and the column glyphs. Behind a newline a
new line starts. -/
def step (position : Position) (glyph : Glyph) : Position :=
  let offset := position.offset + glyph.bytes.length
  if glyph.value = '\n' then ⟨offset, position.line + 1, 1⟩
  else ⟨offset, position.line, position.column + 1⟩

/-- The place behind a list of glyphs. Positions are never counted in any other way. -/
def after (position : Position) (glyphs : List Glyph) : Position := glyphs.foldl step position

/-- Line and column, as in `3:14`. The offset is not shown. -/
def text (position : Position) : Text :=
  Text.ofInt position.line ++ Text.ofString ":" ++ Text.ofInt position.column

/-- Walking over two stretches is walking over the one and then the other. -/
theorem after_append (position : Position) (first second : List Glyph) :
    position.after (first ++ second) = (position.after first).after second := by
  simp [after]

end Position

/-- The stretch between two positions. The second one is behind the last glyph. -/
structure Span where
  start : Position
  stop : Position
deriving DecidableEq, Repr, Inhabited

namespace Span

/-- The span of nothing at all. It is the span of a token that stands in for one that is missing. -/
def nowhere : Span := ⟨.nowhere, .nowhere⟩

/-- The number of bytes between both ends, as a signed 64-bit word. -/
def length (span : Span) : Int := (span.stop.offset - span.start.offset).bmod (Nat.pow 2 64)

/-- Both ends, as in `1:1..1:6`. The second one lies behind the last glyph. -/
def text (span : Span) : Text := span.start.text ++ Text.ofString ".." ++ span.stop.text

/-- The stretch that covers two spans: each end is that of the first span unless
the second one reaches further. -/
def join (first second : Span) : Span where
  start := if second.start.offset < first.start.offset then second.start else first.start
  stop := if first.stop.offset < second.stop.offset then second.stop else first.stop

/-- Joining a span to itself changes nothing. -/
theorem join_self (span : Span) : span.join span = span := by
  simp [join]

end Span

end Astro
