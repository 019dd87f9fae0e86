/-!
# Texts as bytes

A program, a name and a message are texts: lists of bytes that are usually, but
not always, well-formed UTF-8. Reading a text as characters never fails. A byte
that belongs to no well-formed character stands on its own as a stray byte, and
wherever a character is wanted it counts as U+FFFD. Overlong forms, surrogates
and values above U+10FFFF are not well formed, so each of their bytes is stray.

The glyphs of a text lose nothing: their bytes, put one after another, are the
text again (`glyphs_bytes`).
-/

namespace Astro

/-- A text is a list of bytes. These need not be the bytes of characters. -/
abbrev Text := List UInt8

/-- One step of reading a text: a character, or a byte that is part of none. -/
inductive Glyph where
  | char (c : Char)
  | stray (byte : UInt8)
deriving DecidableEq, Repr

namespace Glyph

/-- The character shown for a stray byte. A text may hold it as a character, too. -/
def replacement : Char := '\uFFFD'

/-- The character that a glyph counts as. Classes of glyphs are decided by it. -/
def value : Glyph → Char
  | char c => c
  | stray _ => replacement

/-- The bytes that a glyph occupies. They are never empty. -/
def bytes : Glyph → Text
  | char c => String.utf8EncodeChar c
  | stray byte => [byte]

/-- Every glyph occupies at least one byte. -/
theorem bytes_ne_nil (glyph : Glyph) : glyph.bytes ≠ [] := by
  cases glyph with
  | char c =>
    intro empty
    have width : c.utf8Size = 0 := by
      simpa [bytes, String.length_utf8EncodeChar] using congrArg List.length empty
    exact absurd width (Nat.ne_of_gt c.utf8Size_pos)
  | stray byte => simp [bytes]

end Glyph

namespace Text

/-- The bytes of one character. There are one to four of them. -/
def ofChar (c : Char) : Text := String.utf8EncodeChar c

/-- The bytes of a list of characters. They are read back as these characters. -/
def ofChars (cs : List Char) : Text := cs.flatMap ofChar

/-- The bytes of a string. It is how the words and messages of the program become texts. -/
def ofString (s : String) : Text := ofChars s.toList

/-- The well-formed character at the front of a text. No character is longer
than four bytes, so nothing further is looked at. -/
def firstChar? (text : Text) : Option Char := (text.take 4).toByteArray.utf8DecodeChar? 0

/-- The glyph at the front of a text that starts with `byte`. -/
def firstGlyph (byte : UInt8) (rest : Text) : Glyph :=
  match firstChar? (byte :: rest) with
  | some c => .char c
  | none => .stray byte

/-- What is left of a text that starts with `byte` behind its first glyph. -/
def afterGlyph (byte : UInt8) (rest : Text) : Text :=
  rest.drop ((firstGlyph byte rest).bytes.length - 1)

/-- The glyphs of a text, in order. At each place the longest character that can be read is one,
and a byte that starts none is a stray one. -/
def glyphs : Text → List Glyph
  | [] => []
  | byte :: rest => firstGlyph byte rest :: glyphs (afterGlyph byte rest)
termination_by text => text.length
decreasing_by
  simp only [afterGlyph, List.length_drop, List.length_cons]
  omega

/-- The characters of a text, with U+FFFD for every stray byte. -/
def chars (text : Text) : List Char := text.glyphs.map Glyph.value

/-- A text as a string, with U+FFFD for every stray byte. -/
def toString (text : Text) : String := String.ofList text.chars

/-- The bytes that the glyphs of a list occupy. They are put one behind the other, and a stray
byte stays what it was. -/
def ofGlyphs (glyphs : List Glyph) : Text := glyphs.flatMap Glyph.bytes

/-- A character found at the front of a text is a beginning of that text. -/
theorem firstChar_bytes {text : Text} {c : Char} (found : firstChar? text = some c) :
    ∃ rest, text = ofChar c ++ rest := by
  obtain ⟨rest, split⟩ := ByteArray.exists_of_utf8DecodeChar?_eq_some found
  refine ⟨rest.data.toList ++ text.drop 4, ?_⟩
  have front : text.take 4 = ofChar c ++ rest.data.toList := by
    have lists := congrArg (fun bytes => bytes.data.toList) split
    simpa [ofChar] using lists
  rw [← List.append_assoc, ← front, List.take_append_drop]

/-- The first glyph and what is left behind it make up the text. -/
theorem firstGlyph_afterGlyph (byte : UInt8) (rest : Text) :
    (firstGlyph byte rest).bytes ++ afterGlyph byte rest = byte :: rest := by
  unfold afterGlyph
  cases found : firstChar? (byte :: rest) with
  | none => simp [firstGlyph, found, Glyph.bytes]
  | some c =>
    obtain ⟨tail, split⟩ := firstChar_bytes found
    have shape : firstGlyph byte rest = .char c := by simp [firstGlyph, found]
    have some_byte := Glyph.bytes_ne_nil (.char c)
    rw [shape]
    cases encoded : Glyph.bytes (.char c) with
    | nil => exact absurd encoded some_byte
    | cons first more =>
      have whole : byte :: rest = first :: (more ++ tail) := by
        rw [split, show ofChar c = first :: more from encoded, List.cons_append]
      obtain ⟨rfl, rfl⟩ := List.cons.inj whole
      simp

/-- Reading a text as glyphs loses no byte and invents none. -/
theorem glyphs_bytes (text : Text) : ofGlyphs text.glyphs = text := by
  fun_induction glyphs text with
  | case1 => rfl
  | case2 byte rest remaining =>
    rw [ofGlyphs, List.flatMap_cons]
    rw [ofGlyphs] at remaining
    rw [remaining, firstGlyph_afterGlyph]

/-- Whether a code point lies in one of the closed ranges of an ascending list. -/
def inRanges : List (Nat × Nat) → Nat → Bool
  | [], _ => false
  | (low, high) :: rest, code =>
    if code < low then false
    else if code ≤ high then true
    else inRanges rest code

end Text

end Astro
