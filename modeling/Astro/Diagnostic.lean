import Astro.Position

/-!
# Diagnostics

A diagnostic says what is wrong and where: a stable code, a message, the span of
the culprit and perhaps a hint. With the source at hand it can be shown as an
excerpt: the line of the culprit, with markers under it.
-/

namespace Astro

/-- Something wrong with a program, and the place where it is wrong. -/
structure Diagnostic where
  code : Text
  message : Text
  span : Span
  hint : Option Text
deriving DecidableEq, Repr

namespace Diagnostic

/-- The diagnostic on one line, as in `2:7: x not defined`. -/
def text (diagnostic : Diagnostic) : Text :=
  diagnostic.span.start.text ++ Text.ofString ": " ++ diagnostic.message

/-- Blanks as wide as a text. Tabs stay tabs, so that what follows lines up. -/
def indentLike (text : Text) : Text :=
  text.glyphs.flatMap fun glyph =>
    if glyph.value = '\t' then Text.ofString "\t" else Text.ofString " "

/-- Whether the span of a diagnostic starts inside a source of `size` bytes and
does not end before it starts. -/
def pointsInto (diagnostic : Diagnostic) (size : Nat) : Bool :=
  0 ≤ diagnostic.span.start.offset ∧ diagnostic.span.start.offset ≤ size ∧
    diagnostic.span.start.offset ≤ diagnostic.span.stop.offset

/-- What stands in the culprit's line before the culprit. It is cut off at the offset where the
culprit starts. -/
def lead (diagnostic : Diagnostic) (source : Text) : Text :=
  Text.lastLine (source.take diagnostic.span.start.offset.toNat)

/-- The part of the culprit that stands in its first line. -/
def culprit (diagnostic : Diagnostic) (source : Text) : Text :=
  let start := diagnostic.span.start.offset.toNat
  let stop := diagnostic.span.stop.offset.toNat
  Text.firstLine ((source.drop start).take (stop - start))

/-- What stands in the culprit's line from the culprit on. -/
def trail (diagnostic : Diagnostic) (source : Text) : Text :=
  Text.firstLine (source.drop diagnostic.span.start.offset.toNat)

/-- The line of the culprit. On a terminal with colors the culprit is set in
bold and underlined. -/
def excerptLine (diagnostic : Diagnostic) (source : Text) (color : Bool) : Text :=
  let culprit := diagnostic.culprit source
  let trail := diagnostic.trail source
  if color ∧ culprit ≠ [] then
    diagnostic.lead source ++ Text.ofString "\x1b[1;4m" ++ culprit ++ Text.ofString "\x1b[m" ++
      trail.drop culprit.length
  else diagnostic.lead source ++ trail

/-- The line of markers under the culprit. There is always at least one. -/
def markerLine (diagnostic : Diagnostic) (source : Text) : Text :=
  indentLike (diagnostic.lead source) ++
    (List.replicate (max 1 (diagnostic.culprit source).width) '^').flatMap Text.ofChar

/-- The diagnostic with its source: a heading, the line of the culprit, markers
under it, and the hint when there is one. A span that does not lie in the source
has no line to show, and is reported by its offsets instead. -/
def excerpt (diagnostic : Diagnostic) (name source : Text) (color : Bool) : Text :=
  if diagnostic.pointsInto source.length then
    name ++ Text.ofString ", line " ++ Text.ofInt diagnostic.span.start.line ++
      Text.ofString ": " ++ diagnostic.message ++ Text.ofString "\n" ++
      diagnostic.excerptLine source color ++ Text.ofString "\n" ++
      diagnostic.markerLine source ++
      (match diagnostic.hint with
        | none => []
        | some hint => Text.ofString "\nhint: " ++ hint)
  else
    name ++ Text.ofString ", invalid position " ++ Text.ofInt diagnostic.span.start.offset ++
      Text.ofString "-" ++ Text.ofInt diagnostic.span.stop.offset ++ Text.ofString ": " ++
      diagnostic.message

end Diagnostic

end Astro
