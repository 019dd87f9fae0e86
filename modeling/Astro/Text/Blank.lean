import Astro.Text.Basic

/-!
# White space

Blank characters separate words and carry no meaning. The class is wider than
the ASCII one: it has the line and paragraph separators and the typographic
spaces, but not the zero-width ones.
-/

namespace Astro.Text

/-- Blank characters, as closed ranges in ascending order. They are the white space of Unicode. -/
def blankRanges : List (Nat × Nat) :=
  [(0x0009, 0x000D), (0x0020, 0x0020), (0x0085, 0x0085), (0x00A0, 0x00A0), (0x1680, 0x1680),
   (0x2000, 0x200A), (0x2028, 0x2029), (0x202F, 0x202F), (0x205F, 0x205F), (0x3000, 0x3000)]

/-- Whether a character is white space. Newlines are, as well. -/
def isBlank (c : Char) : Bool := inRanges blankRanges c.toNat

/-- Whether a glyph is white space. A stray byte never is. -/
def isBlankGlyph (glyph : Glyph) : Bool := isBlank glyph.value

/-- A text without the white space at either end. What stands between is kept as it is. -/
def trim (text : Text) : Text :=
  let opened := text.glyphs.dropWhile isBlankGlyph
  ofGlyphs (opened.reverse.dropWhile isBlankGlyph).reverse

/-- A stray byte is not white space, whatever its value. -/
theorem isBlankGlyph_stray (byte : UInt8) : isBlankGlyph (.stray byte) = false := by
  simp [isBlankGlyph, Glyph.value, Glyph.replacement, isBlank, blankRanges, inRanges]

end Astro.Text
