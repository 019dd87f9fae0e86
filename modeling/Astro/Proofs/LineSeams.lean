import Astro.Proofs.Pieces

/-!
# Cutting texts at line ends

A newline is white space and part of no token, and it ends a comment. How far a
piece reaches is therefore settled before the end of its line, whatever stands on
the lines behind it (`Settled`), and the pieces of two texts, the first of which
ends its last line, are those of the one and then those of the other.
-/

namespace Astro.Piece

/-- A length that is settled on the line where it is measured: it does not reach the
newline, and what stands behind the newline does not matter. -/
def Settled (length : List Glyph → Nat) : Prop :=
  ∀ (line : List Glyph) (ending : Glyph) (after : List Glyph), ending.value = '\n' →
    length (line ++ ending :: after) = length (line ++ [ending]) ∧
      length (line ++ [ending]) ≤ line.length

/-- What a text goes on with is seen before what stands behind its line, since the line ends in a
glyph of its own. -/
theorem startsWith_line (c : Char) (line : List Glyph) (ending : Glyph) (after : List Glyph) :
    startsWith c (line ++ ending :: after) = startsWith c (line ++ [ending]) := by
  cases line <;> rfl

/-- No text goes on with any other character at the end of a line. -/
theorem startsWith_ending {c : Char} {ending : Glyph} (ends : ending.value = '\n')
    (other : c ≠ '\n') (after : List Glyph) : startsWith c (ending :: after) = false := by
  simp [startsWith, ends, other.symm]

/-- The length of a stretch in a class is settled on its line, if no newline is in the class. -/
theorem settled_countWhile {accepts : Glyph → Bool}
    (stops : ∀ ending : Glyph, ending.value = '\n' → accepts ending = false) :
    Settled (countWhile accepts) := by
  intro line ending after ends
  induction line with
  | nil => simp [countWhile, stops ending ends]
  | cons first rest others =>
    cases accepted : accepts first with
    | false => simp [countWhile, accepted]
    | true => simpa [countWhile, accepted] using others

/-- A settled length behind a settled length is settled: the first does not reach the newline, so
that the second is measured on the same line. -/
theorem Settled.add {first second : List Glyph → Nat} (front : Settled first)
    (behind : Settled second) :
    Settled fun glyphs => first glyphs + second (glyphs.drop (first glyphs)) := by
  intro line ending after ends
  obtain ⟨same, short⟩ := front line ending after ends
  obtain ⟨sameBehind, shortBehind⟩ :=
    behind (line.drop (first (line ++ [ending]))) ending after ends
  simp only [same, List.drop_append_of_le_length short, sameBehind, true_and]
  rw [List.length_drop] at shortBehind
  omega

/-- The number of digits is settled on their line. A newline is no digit, so that counting stops
before it. -/
theorem settled_digits : Settled (countWhile isDigit) := by
  refine settled_countWhile fun ending ends => ?_
  rw [isDigit, ends]
  rfl

/-- The length of a fraction is settled on its line. Whether a digit stands behind the point is
seen there. -/
theorem settled_fraction : Settled fractionLength := by
  intro line ending after ends
  cases line with
  | nil => simp [fractionLength, startsWith_ending ends (by decide : '.' ≠ '\n')]
  | cons first rest =>
    obtain ⟨same, short⟩ := settled_digits rest ending after ends
    have seen := startsWith_line '.' (first :: rest) ending after
    simp only [List.cons_append] at seen ⊢
    simp only [fractionLength, List.drop_succ_cons, List.drop_zero, same, seen, true_and]
    split <;> simp only [List.length_cons] <;> omega

/-- The length of a sign is settled on its line. -/
theorem settled_sign : Settled signLength := by
  intro line ending after ends
  cases line with
  | nil =>
    simp [signLength, startsWith_ending ends (by decide : '+' ≠ '\n'),
      startsWith_ending ends (by decide : '-' ≠ '\n')]
  | cons first rest =>
    refine ⟨rfl, ?_⟩
    unfold signLength
    split <;> simp

/-- The length of an exponent is settled on its line, with its mark, its sign and its digits. The
mark, the sign and a first digit have to stand on the line, as the newline is none of these. -/
theorem settled_exponent : Settled exponentLength := by
  intro line ending after ends
  cases line with
  | nil =>
    simp [exponentLength, startsWith_ending ends (by decide : 'e' ≠ '\n'),
      startsWith_ending ends (by decide : 'E' ≠ '\n')]
  | cons first rest =>
    obtain ⟨sameSign, shortSign⟩ := settled_sign rest ending after ends
    obtain ⟨sameDigits, shortDigits⟩ :=
      settled_digits (rest.drop (signLength (rest ++ [ending]))) ending after ends
    have small := startsWith_line 'e' (first :: rest) ending after
    have large := startsWith_line 'E' (first :: rest) ending after
    rw [List.length_drop] at shortDigits
    simp only [List.cons_append] at small large ⊢
    simp only [exponentLength, List.drop_succ_cons, List.drop_zero, Nat.add_comm 1, sameSign, small,
      large, List.drop_append_of_le_length shortSign, sameDigits, true_and]
    split <;> simp only [List.length_cons] <;> omega

/-- The length of a numeral is settled on its line, as that of its parts. -/
theorem settled_numeral : Settled numeralLength :=
  (settled_digits.add settled_fraction).add settled_exponent

/-- A newline stops every class of glyphs that can stand inside a token. -/
theorem isInner_ending {ending : Glyph} (ends : ending.value = '\n') : isInner ending = false := by
  refine isInner_of_isBlankGlyph ?_
  rw [Text.isBlankGlyph, ends]
  rfl

/-- The length of a word is settled on its line. -/
theorem settled_word : Settled (countWhile continuesWord) := by
  refine settled_countWhile fun ending ends => ?_
  cases continues : continuesWord ending with
  | false => rfl
  | true =>
    rw [← isInner_ending ends, isInner_of_continuesWord ending continues]

/-- The length of a comment is settled on its line, because the newline ends it. -/
theorem settled_comment : Settled (countWhile (·.value != '\n')) := by
  refine settled_countWhile fun ending ends => ?_
  simp [ends]

/-- How far a piece reaches is settled on its line, whatever its first glyph is. A comment, a
numeral, a word and a second star all end before the newline, and any other piece is a single
glyph. -/
theorem settled_extent (first : Glyph) : Settled (extent first) := by
  intro line ending after ends
  have slash := startsWith_line '/' line ending after
  have star := startsWith_line '*' line ending after
  have comment := settled_comment line ending after ends
  have numeral := settled_numeral line ending after ends
  have word := settled_word line ending after ends
  simp only [extent, slash, star, comment.1, numeral.1, word.1, true_and]
  split
  · exact Nat.zero_le _
  split
  · exact comment.2
  split
  · exact numeral.2
  split
  · exact word.2
  split
  · next again =>
    cases line with
    | nil => simp [startsWith_ending ends (by decide : '*' ≠ '\n')] at again
    | cons next others => simp
  · exact Nat.zero_le _

/-- What a piece is, is settled on its line, together with how far it reaches. -/
theorem kindAt_line (first : Glyph) {line : List Glyph} {ending : Glyph} (after : List Glyph)
    (ends : ending.value = '\n') :
    kindAt first (line ++ ending :: after) = kindAt first (line ++ [ending]) := by
  have slash := startsWith_line '/' line ending after
  have star := startsWith_line '*' line ending after
  obtain ⟨same, short⟩ := settled_word line ending after ends
  simp only [kindAt, slash, star, same, List.take_append_of_le_length short]

/-- Behind the end of a line, pieces are cut as if nothing stood before them.

Proof: induction on the length of the line, which every piece makes shorter. Each piece is the
same with and without the rest behind the line, and the last one is the newline itself. -/
theorem cut_append {line : List Glyph} {ending : Glyph} (ends : ending.value = '\n')
    (after : List Glyph) : cut (line ++ ending :: after) = cut (line ++ [ending]) ++ cut after := by
  induction size : line.length using Nat.strongRecOn generalizing line with
  | ind count shorter =>
    cases line with
    | nil =>
      have white : Text.isBlankGlyph ending = true := by
        rw [Text.isBlankGlyph, ends]
        rfl
      simp [cut, kindAt, extent, white]
    | cons first rest =>
      obtain ⟨same, short⟩ := settled_extent first rest ending after ends
      have fewer : (rest.drop (extent first (rest ++ [ending]))).length < count := by
        rw [← size, List.length_drop, List.length_cons]
        omega
      have behind := shorter _ fewer rfl
      rw [List.cons_append, List.cons_append, cut, cut, kindAt_line first after ends, same,
        List.take_append_of_le_length short, List.drop_append_of_le_length short,
        List.take_append_of_le_length short, List.drop_append_of_le_length short, behind,
        List.cons_append]

end Astro.Piece
