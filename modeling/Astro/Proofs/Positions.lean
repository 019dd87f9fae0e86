import Astro.Position
import Astro.Proofs.Glyphs
import Mathlib.Data.List.DropRight

/-!
# Positions recounted

Walking over a text keeps three counters going. A recount finds the same three
numbers from the bytes before an offset alone: how many they are, how many of
them are newlines, and how many glyphs stand behind the last newline. Walking and
recounting agree between any two glyphs of a text.
-/

namespace Astro

namespace Position

/-- The place in a text at a byte offset, counted anew from the bytes before it. -/
def recount (text : Text) (offset : Nat) : Position where
  offset := offset
  line := 1 + (text.take offset).count Text.newline
  column := 1 + (Text.lastLine (text.take offset)).width

/-- Walking over one more glyph is one more step. -/
theorem after_concat (position : Position) (glyphs : List Glyph) (last : Glyph) :
    position.after (glyphs ++ [last]) = (position.after glyphs).step last := by
  rw [after_append]
  rfl

end Position

namespace Text

/-- One more glyph adds its bytes. This is the step of inductions from the end. -/
theorem ofGlyphs_concat (glyphs : List Glyph) (last : Glyph) :
    ofGlyphs (glyphs ++ [last]) = ofGlyphs glyphs ++ last.bytes := by
  rw [ofGlyphs_append]
  exact congrArg _ (List.append_nil _)

/-- The glyphs behind the last newline among some glyphs. -/
def lastGlyphs (glyphs : List Glyph) : List Glyph := glyphs.rtakeWhile (·.value ≠ '\n')

/-- Behind a newline there are none yet. -/
theorem lastGlyphs_newline (glyphs : List Glyph) {last : Glyph} (ends : last.value = '\n') :
    lastGlyphs (glyphs ++ [last]) = [] :=
  List.rtakeWhile_concat_neg _ _ _ (by simpa using ends)

/-- Any other glyph is one more behind the last newline. -/
theorem lastGlyphs_concat (glyphs : List Glyph) {last : Glyph} (goes : last.value ≠ '\n') :
    lastGlyphs (glyphs ++ [last]) = lastGlyphs glyphs ++ [last] :=
  List.rtakeWhile_concat_pos _ _ _ (by simpa using goes)

/-- A newline character is one newline byte. A stray byte counts as another character. -/
theorem bytes_of_newline {glyph : Glyph} (ends : glyph.value = '\n') : glyph.bytes = [newline] := by
  rw [Glyph.eq_char ends (by decide)]
  exact ofChar_newline

/-- Behind a newline, the last line starts anew. It is empty, whatever stood on the line before. -/
theorem lastLine_concat_newline (text : Text) : lastLine (text ++ [newline]) = [] := by
  simp [lastLine]

/-- Bytes without a newline go on with the last line. -/
theorem lastLine_append {text more : Text} (none : newline ∉ more) :
    lastLine (text ++ more) = lastLine text ++ more := by
  have goes : ∀ byte ∈ more.reverse, (byte != newline) = true := by
    intro byte member
    have differs : byte ≠ newline := by
      rintro rfl
      exact none (List.mem_reverse.mp member)
    simpa using differs
  rw [lastLine, lastLine, List.reverse_append, List.takeWhile_append_of_pos goes,
    List.reverse_append, List.reverse_reverse]

/-- The last line has the glyphs behind the last newline.

Proof: induction on the glyphs from their end. A newline starts a new line, and any other glyph
has no newline among its bytes and is put on the last one. -/
theorem lastLine_ofGlyphs {glyphs : List Glyph}
    (plain : ∀ glyph ∈ glyphs, newline ∈ glyph.bytes ↔ glyph.value = '\n') :
    lastLine (ofGlyphs glyphs) = ofGlyphs (lastGlyphs glyphs) := by
  induction glyphs using List.reverseRecOn with
  | nil => rfl
  | append_singleton glyphs last earlier =>
    obtain ⟨before, atLast⟩ := List.forall_mem_append.mp plain
    have lastPlain := atLast last (List.mem_singleton_self last)
    by_cases ends : last.value = '\n'
    · rw [ofGlyphs_concat, bytes_of_newline ends, lastLine_concat_newline,
        lastGlyphs_newline glyphs ends]
      rfl
    · have none : newline ∉ last.bytes := fun inside => ends (lastPlain.mp inside)
      rw [ofGlyphs_concat, lastLine_append none, earlier before, lastGlyphs_concat glyphs ends,
        ofGlyphs_concat]

end Text

namespace Position

open Text

/-- What walking over glyphs counts.

Proof: one glyph more at the end. A newline adds a byte and a line and starts the
columns anew; any other glyph adds its bytes and one column. -/
theorem after_start_eq {glyphs : List Glyph}
    (plain : ∀ glyph ∈ glyphs, newline ∈ glyph.bytes ↔ glyph.value = '\n') :
    start.after glyphs =
      ⟨(ofGlyphs glyphs).length, 1 + (ofGlyphs glyphs).count newline,
        1 + (lastGlyphs glyphs).length⟩ := by
  induction glyphs using List.reverseRecOn with
  | nil => rfl
  | append_singleton glyphs last earlier =>
    obtain ⟨before, atLast⟩ := List.forall_mem_append.mp plain
    have lastPlain := atLast last (List.mem_singleton_self last)
    rw [after_concat, earlier before, step, ofGlyphs_concat, List.length_append, List.count_append]
    by_cases ends : last.value = '\n'
    · rw [if_pos ends, lastGlyphs_newline glyphs ends, bytes_of_newline ends]
      simp [Int.add_assoc]
    · have none : last.bytes.count newline = 0 :=
        List.count_eq_zero.mpr fun inside => ends (lastPlain.mp inside)
      rw [if_neg ends, lastGlyphs_concat glyphs ends, none, List.length_append]
      simp [Int.add_assoc]

/-- Between two glyphs of a text, walking and recounting agree. -/
theorem after_start_eq_recount {text : Text} {front back : List Glyph}
    (reads : text.glyphs = front ++ back) :
    start.after front = recount text (ofGlyphs front).length := by
  have plain : ∀ glyph ∈ front, newline ∈ glyph.bytes ↔ glyph.value = '\n' := fun glyph member =>
    newline_mem_bytes_iff (reads ▸ List.mem_append_left back member)
  have before : text.take (ofGlyphs front).length = ofGlyphs front := by
    rw [congrArg (List.take _) (bytes_of_reads reads), List.take_left]
  have behind : front.rdropWhile (·.value ≠ '\n') ++ (lastGlyphs front ++ back) = text.glyphs := by
    rw [← List.append_assoc, lastGlyphs, List.rdropWhile_append_rtakeWhile, reads]
  have line : (ofGlyphs (lastGlyphs front)).glyphs = lastGlyphs front :=
    glyphs_of_front (glyphs_of_behind behind.symm)
  rw [after_start_eq plain, recount, before, lastLine_ofGlyphs plain, width, line]

end Position

end Astro
