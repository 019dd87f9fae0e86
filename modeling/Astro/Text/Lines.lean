import Astro.Text.Basic

/-!
# Lines and columns of text

Lines end at newline bytes, and a text with `n` newlines has `n + 1` lines. The
width of a text is its number of glyphs, so a stray byte is one column wide.
-/

namespace Astro.Text

/-- The byte that ends a line. It is not shared with any longer character. -/
def newline : UInt8 := 10

/-- The lines of a text, without their newline bytes. There is always one. -/
def lines : Text → List Text
  | [] => [[]]
  | byte :: rest =>
    if byte = newline then [] :: lines rest
    else
      match lines rest with
      | [] => [[byte]]
      | line :: more => (byte :: line) :: more

/-- What stands before the first newline. It is the whole text if there is none. -/
def firstLine (text : Text) : Text := text.takeWhile (· != newline)

/-- What stands behind the last newline. It is the whole text if there is none, and empty if the
text ends with one. -/
def lastLine (text : Text) : Text := (text.reverse.takeWhile (· != newline)).reverse

/-- The number of columns that a text takes. Every glyph takes one, however wide it is shown. -/
def width (text : Text) : Nat := text.glyphs.length

/-- A text filled up with spaces on the right to at least `columns` columns. -/
def padRight (columns : Nat) (text : Text) : Text :=
  text ++ List.replicate (columns - text.width) 32

/-- Decimal digits, without leading zeros. Zero is a single digit. -/
def ofNat (n : Nat) : Text := ofChars (Nat.toDigits 10 n)

/-- Decimal digits, with a minus sign for a negative number. -/
def ofInt : Int → Text
  | .ofNat n => ofNat n
  | .negSucc n => ofString "-" ++ ofNat (n + 1)

/-- Lower-case hexadecimal digits, filled up with zeros on the left. -/
def ofHex (digits : Nat) (n : Nat) : Text :=
  let shown := Nat.toDigits 16 n
  ofChars (List.replicate (digits - shown.length) '0' ++ shown)

/-- There is always at least one line. -/
theorem lines_ne_nil (text : Text) : text.lines ≠ [] := by
  cases text with
  | nil => simp [lines]
  | cons byte rest =>
    rw [lines]
    split
    · simp
    · split <;> simp

/-- A text has one line more than it has newline bytes. -/
theorem length_lines (text : Text) : text.lines.length = text.count newline + 1 := by
  induction text with
  | nil => rfl
  | cons byte rest counted =>
    by_cases ends : byte = newline
    · simp [lines, ends, counted]
    · cases split : lines rest with
      | nil => exact absurd split (lines_ne_nil rest)
      | cons line more =>
        rw [split] at counted
        simp only [lines, if_neg ends, split, List.count_cons_of_ne ends]
        simpa using counted

end Astro.Text
