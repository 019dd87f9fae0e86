import Astro.Text.Lines
import Astro.Text.Printable

/-!
# Quoted texts

A text in double quotes, with everything that cannot be shown as it is written
as an escape: the quote and the backslash, the control characters that have a
letter of their own, and any other character by its code in hexadecimal. A
stray byte is escaped byte by byte, so two different texts never look alike.
-/

namespace Astro.Text

/-- The letter that names a control character in an escape. -/
def escapeLetter? (c : Char) : Option Char :=
  match c.toNat with
  | 7 => some 'a'
  | 8 => some 'b'
  | 9 => some 't'
  | 10 => some 'n'
  | 11 => some 'v'
  | 12 => some 'f'
  | 13 => some 'r'
  | _ => none

/-- A character that cannot be shown, by its code: two digits in ASCII, four in
the rest of the basic plane, eight beyond. -/
def escapeCode (c : Char) : Text :=
  if c.toNat < 0x80 then ofString "\\x" ++ ofHex 2 c.toNat
  else if c.toNat < 0x10000 then ofString "\\u" ++ ofHex 4 c.toNat
  else ofString "\\U" ++ ofHex 8 c.toNat

/-- One glyph as it stands between double quotes. Quotes, backslashes and what is not printable
are escaped, and a stray byte is shown by its two digits. -/
def quoteGlyph : Glyph → Text
  | .stray byte => ofString "\\x" ++ ofHex 2 byte.toNat
  | .char c =>
    if c = '"' ∨ c = '\\' then ofString "\\" ++ ofChar c
    else if isPrintable c then ofChar c
    else
      match escapeLetter? c with
      | some letter => ofString "\\" ++ ofChar letter
      | none => escapeCode c

/-- A text in double quotes. It can be told from the quoted text what bytes it had. -/
def quote (text : Text) : Text :=
  ofString "\"" ++ text.glyphs.flatMap quoteGlyph ++ ofString "\""

end Astro.Text
