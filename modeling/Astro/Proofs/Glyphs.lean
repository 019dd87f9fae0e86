import Astro.Text.Lines

/-!
# Reading bytes as glyphs

A character is found at the front of a text exactly when its bytes stand there.
So whether a byte is stray depends on the bytes behind it only as far as they are
there, and a text that is cut between two of its glyphs is read on both sides as
it was read before.

The bytes below 0x80 are characters by themselves and are part of no other. A
newline byte is therefore always a newline character, and a text can be cut next
to any such byte (`Seam`).
-/

namespace Astro

/-- Only stray bytes count as a character that they are not, and that is U+FFFD. -/
theorem Glyph.eq_char {glyph : Glyph} {c : Char} (same : glyph.value = c)
    (known : c ≠ Glyph.replacement) : glyph = .char c := by
  cases glyph with
  | char found => exact congrArg _ same
  | stray byte => exact absurd same.symm known

namespace Text

/-- A character is found at the front of a text when its bytes stand there. -/
theorem firstChar?_ofChar (c : Char) (rest : Text) : firstChar? (ofChar c ++ rest) = some c := by
  have short : (ofChar c).length ≤ 4 := by
    rw [ofChar, String.length_utf8EncodeChar]
    exact c.utf8Size_le_four
  have front : ((ofChar c ++ rest).take 4).toByteArray =
      (String.utf8EncodeChar c).toByteArray ++ (rest.take (4 - (ofChar c).length)).toByteArray := by
    rw [List.take_append, List.take_of_length_le short, List.toByteArray_append]
    rfl
  rw [firstChar?, front, ByteArray.utf8DecodeChar?_utf8EncodeChar_append]

/-- A text has a character at its front exactly when the character's bytes are its first ones. -/
theorem firstChar?_eq_some_iff {text : Text} {c : Char} :
    firstChar? text = some c ↔ ofChar c <+: text := by
  constructor
  · intro found
    obtain ⟨rest, split⟩ := firstChar_bytes found
    exact ⟨rest, split.symm⟩
  · rintro ⟨rest, rfl⟩
    exact firstChar?_ofChar c rest

/-- A first byte that is stray stays so when bytes are cut off behind it. -/
theorem stray_of_append {text more : Text} (stray : firstChar? (text ++ more) = none) :
    firstChar? text = none := by
  cases found : firstChar? text with
  | none => rfl
  | some c =>
    have longer := firstChar?_eq_some_iff.mpr
      ((firstChar?_eq_some_iff.mp found).trans (List.prefix_append text more))
    rw [stray] at longer
    cases longer

/-- An ASCII character is one byte. The byte is the character's code. -/
theorem ofChar_of_narrow {c : Char} (narrow : c.toNat < 0x80) : ofChar c = [UInt8.ofNat c.toNat] := by
  have below : c.val.toNat ≤ 0x7F := Nat.le_of_lt_succ narrow
  unfold ofChar String.utf8EncodeChar
  simp only [below, if_true]
  rfl

/-- The bytes of a character outside ASCII are all outside ASCII. -/
theorem high_of_mem_ofChar {c : Char} {byte : UInt8} (wide : 0x80 ≤ c.toNat)
    (member : byte ∈ ofChar c) : 0x80 ≤ byte.toNat := by
  have above : ¬ c.val.toNat ≤ 0x7F := Nat.not_le.mpr wide
  unfold ofChar String.utf8EncodeChar at member
  simp only [above, if_false] at member
  repeat' split at member
  all_goals
    simp only [List.mem_cons, List.not_mem_nil, or_false] at member
    rcases member with rfl | rfl | rfl | rfl
    all_goals
      simp only [UInt8.toNat_ofNat']
      omega

/-- Reading goes on behind a character. The bytes of a character are read as it, whatever stands
behind them. -/
theorem glyphs_ofChar_append (c : Char) (rest : Text) :
    glyphs (ofChar c ++ rest) = .char c :: glyphs rest := by
  cases split : ofChar c ++ rest with
  | nil => exact absurd (List.append_eq_nil_iff.mp split).1 (Glyph.bytes_ne_nil (.char c))
  | cons byte more =>
    have first : firstGlyph byte more = .char c := by
      rw [firstGlyph, ← split, firstChar?_ofChar]
    have behind := firstGlyph_afterGlyph byte more
    rw [first, ← split] at behind
    rw [glyphs, first, List.append_cancel_left behind]

/-- Reading goes on behind a stray byte. The byte is read alone, and the next one may start a
character. -/
theorem glyphs_stray {byte : UInt8} {rest : Text} (stray : firstChar? (byte :: rest) = none) :
    glyphs (byte :: rest) = .stray byte :: glyphs rest := by
  have first : firstGlyph byte rest = .stray byte := by rw [firstGlyph, stray]
  rw [glyphs, first, afterGlyph, first]
  rfl

/-- A text is empty, starts with a character, or starts with a stray byte. -/
theorem glyphs_cases (text : Text) :
    text = [] ∨ (∃ c rest, text = ofChar c ++ rest) ∨
      ∃ byte rest, text = byte :: rest ∧ firstChar? (byte :: rest) = none := by
  cases text with
  | nil => exact .inl rfl
  | cons byte rest =>
    cases found : firstChar? (byte :: rest) with
    | none => exact .inr (.inr ⟨byte, rest, rfl, found⟩)
    | some c =>
      obtain ⟨more, split⟩ := firstChar_bytes found
      exact .inr (.inl ⟨c, more, split⟩)

/-- The bytes of glyphs, one stretch after another. Where glyphs are cut, their bytes are cut at
the same place. -/
theorem ofGlyphs_append (first second : List Glyph) :
    ofGlyphs (first ++ second) = ofGlyphs first ++ ofGlyphs second := List.flatMap_append

/-- The bytes of a text are those of its glyphs, in two stretches. -/
theorem bytes_of_reads {text : Text} {front back : List Glyph}
    (reads : text.glyphs = front ++ back) : text = ofGlyphs front ++ ofGlyphs back := by
  rw [← ofGlyphs_append, ← reads, glyphs_bytes]

/-- Behind the bytes of some glyphs of a text stand those of the others. -/
theorem drop_of_reads {text : Text} {front back : List Glyph}
    (reads : text.glyphs = front ++ back) :
    text.drop (ofGlyphs front).length = ofGlyphs back := by
  have split := bytes_of_reads reads
  rw [congrArg (List.drop _) split, List.drop_left]

/-- Behind the first glyph of a text stand the bytes of the others, and they are read
as they were. -/
theorem glyphs_eq_cons {text : Text} {first : Glyph} {others : List Glyph}
    (reads : text.glyphs = first :: others) :
    text = first.bytes ++ ofGlyphs others ∧ (ofGlyphs others).glyphs = others := by
  have whole := glyphs_bytes text
  rw [reads] at whole
  refine ⟨whole.symm, ?_⟩
  cases text with
  | nil => simp [glyphs] at reads
  | cons byte rest =>
    rw [glyphs] at reads
    obtain ⟨_, rfl⟩ := List.cons.inj reads
    rw [glyphs_bytes]

/-- A glyph for a stray byte comes from a text with no character at its front. -/
theorem firstChar?_of_stray {text : Text} {byte : UInt8} {others : List Glyph}
    (reads : text.glyphs = .stray byte :: others) : firstChar? text = none := by
  rcases glyphs_cases text with rfl | ⟨c, rest, rfl⟩ | ⟨found, rest, rfl, stray⟩
  · simp [glyphs] at reads
  · rw [glyphs_ofChar_append] at reads
    cases reads
  · exact stray

/-- The bytes behind some of the glyphs of a text are read as they were. -/
theorem glyphs_of_behind {text : Text} {front back : List Glyph}
    (reads : text.glyphs = front ++ back) : (ofGlyphs back).glyphs = back := by
  induction front generalizing text with
  | nil => rw [← List.nil_append back, ← reads, glyphs_bytes]
  | cons first front remaining => exact remaining (glyphs_eq_cons reads).2

/-- The bytes of the first glyphs of a text are read as they were.

Proof: induction on the glyphs. The bytes of a character are read as it, and a stray byte stays
stray when fewer bytes follow. -/
theorem glyphs_of_front {text : Text} {front back : List Glyph}
    (reads : text.glyphs = front ++ back) : (ofGlyphs front).glyphs = front := by
  induction front generalizing text with
  | nil => simp [ofGlyphs, glyphs]
  | cons first front remaining =>
    rw [List.cons_append] at reads
    obtain ⟨split, others⟩ := glyphs_eq_cons reads
    have shorter := remaining others
    change glyphs (first.bytes ++ ofGlyphs front) = first :: front
    cases first with
    | char c => rw [Glyph.bytes, ← ofChar, glyphs_ofChar_append, shorter]
    | stray byte =>
      have stray := firstChar?_of_stray reads
      rw [split, ofGlyphs_append, ← List.append_assoc] at stray
      exact (glyphs_stray (stray_of_append stray)).trans (congrArg _ shorter)

/-- A stray byte is outside ASCII. Every byte of ASCII is a character by itself. -/
theorem high_of_stray {text : Text} {byte : UInt8} (member : .stray byte ∈ text.glyphs) :
    0x80 ≤ byte.toNat := by
  obtain ⟨front, back, reads⟩ := List.append_of_mem member
  have stray := firstChar?_of_stray (glyphs_of_behind reads)
  refine Nat.le_of_not_lt fun low => ?_
  have single : ofChar (Char.ofUInt8 byte) = [byte] := by
    have code : (Char.ofUInt8 byte).toNat = byte.toNat := UInt8.toNat_toUInt32 byte
    rw [ofChar_of_narrow (code ▸ low), code, UInt8.ofNat_toNat]
  have found := firstChar?_ofChar (Char.ofUInt8 byte) (ofGlyphs back)
  rw [single] at found
  cases stray.symm.trans ((congrArg firstChar? (glyphs_eq_cons (glyphs_of_behind reads)).1).trans found)

/-- The newline character is one newline byte. Lines can therefore be told apart in bytes as well
as in glyphs. -/
theorem ofChar_newline : ofChar '\n' = [newline] := by decide

/-- In a text that is read, a glyph holds a byte of ASCII only as that character. The bytes of
longer characters and stray bytes are all above ASCII. -/
theorem mem_bytes_iff {text : Text} {glyph : Glyph} {c : Char} (member : glyph ∈ text.glyphs)
    (narrow : c.toNat < 0x80) : UInt8.ofNat c.toNat ∈ glyph.bytes ↔ glyph.value = c := by
  have code : (UInt8.ofNat c.toNat).toNat = c.toNat := by
    rw [UInt8.toNat_ofNat']
    omega
  constructor
  · intro inside
    cases glyph with
    | stray byte =>
      have high := high_of_stray member
      rw [← List.mem_singleton.mp inside] at high
      omega
    | char found =>
      by_cases low : found.toNat < 0x80
      · rw [Glyph.bytes, ← ofChar, ofChar_of_narrow low] at inside
        have same := congrArg UInt8.toNat (List.mem_singleton.mp inside)
        rw [code, UInt8.toNat_ofNat'] at same
        have equal : found.toNat = c.toNat := by omega
        exact Char.toNat_inj.mp equal
      · have high := high_of_mem_ofChar (Nat.le_of_not_lt low) inside
        omega
  · intro same
    have known : c ≠ Glyph.replacement := by
      rintro rfl
      exact absurd narrow (by decide)
    rw [Glyph.eq_char same known, Glyph.bytes, ← ofChar, ofChar_of_narrow narrow]
    exact List.mem_singleton_self _

/-- In a text that is read, a glyph holds a newline byte only as a newline character. -/
theorem newline_mem_bytes_iff {text : Text} {glyph : Glyph} (member : glyph ∈ text.glyphs) :
    newline ∈ glyph.bytes ↔ glyph.value = '\n' :=
  @mem_bytes_iff text glyph '\n' member (by decide)

/-- A text holds a newline byte exactly when a newline is one of its characters. -/
theorem newline_mem_iff {text : Text} : newline ∈ text ↔ '\n' ∈ text.chars := by
  have bytes : newline ∈ text ↔ newline ∈ ofGlyphs text.glyphs := by rw [glyphs_bytes]
  rw [bytes, ofGlyphs, List.mem_flatMap, chars, List.mem_map]
  constructor
  · rintro ⟨glyph, member, inside⟩
    exact ⟨glyph, member, (newline_mem_bytes_iff member).mp inside⟩
  · rintro ⟨glyph, member, value⟩
    exact ⟨glyph, member, (newline_mem_bytes_iff member).mpr value⟩

/-- Two texts meet at a byte of ASCII, on either side, or one of them is empty. -/
def Seam (first second : Text) : Prop :=
  (∀ last ∈ first.getLast?, last.toNat < 0x80) ∨ (∀ next ∈ second.head?, next.toNat < 0x80)

/-- What is cut off the front of the first text does not matter. -/
theorem Seam.of_append {front first second : Text} (seam : Seam (front ++ first) second) :
    Seam first second := by
  refine seam.imp_left fun low last ends => low last ?_
  rw [List.getLast?_append, Option.mem_def.mp ends]
  rfl

/-- A stray byte stays so when bytes are put behind a seam.

Proof: a character that reached over the seam would have the bytes on both sides
of it among several bytes of its own, and then both would be outside ASCII. -/
theorem stray_append {byte : UInt8} {rest second : Text} (seam : Seam (byte :: rest) second)
    (stray : firstChar? (byte :: rest) = none) :
    firstChar? (byte :: (rest ++ second)) = none := by
  cases found : firstChar? (byte :: (rest ++ second)) with
  | none => rfl
  | some c =>
    exfalso
    have unread : ¬ ofChar c <+: byte :: rest := by
      intro inside
      rw [firstChar?_eq_some_iff.mpr inside] at stray
      cases stray
    have whole : ofChar c <+: byte :: rest ++ second := firstChar?_eq_some_iff.mp found
    rcases List.prefix_or_prefix_of_prefix whole (List.prefix_append (byte :: rest) second) with
      inside | ⟨beyond, across⟩
    · exact unread inside
    · have wide : 0x80 ≤ c.toNat := by
        refine Nat.le_of_not_lt fun narrow => unread ?_
        rw [ofChar_of_narrow narrow] at across ⊢
        have none : beyond = [] := by
          have length := congrArg List.length across
          simp only [List.length_append, List.length_cons, List.length_nil] at length
          exact List.length_eq_zero_iff.mp (by omega)
        rw [none, List.append_nil] at across
        exact across ▸ List.prefix_refl _
      rcases seam with low | low
      · have last := List.getLast?_eq_some_getLast (List.cons_ne_nil byte rest)
        have member : (byte :: rest).getLast (List.cons_ne_nil byte rest) ∈ ofChar c := by
          rw [← across]
          exact List.mem_append_left beyond (List.getLast_mem _)
        exact absurd (low _ last) (Nat.not_lt.mpr (high_of_mem_ofChar wide member))
      · cases beyond with
        | nil =>
          rw [List.append_nil] at across
          exact unread (across ▸ List.prefix_refl _)
        | cons next others =>
          have member : next ∈ ofChar c := by
            rw [← across]
            exact List.mem_append_right _ List.mem_cons_self
          rw [← across, List.prefix_append_right_inj] at whole
          obtain ⟨more, rfl⟩ := whole
          exact absurd (low next rfl) (Nat.not_lt.mpr (high_of_mem_ofChar wide member))

/-- The glyphs on the two sides of a seam are those of the two texts.

Proof: strong induction on the first text. A character at its front is read as it was, and a stray
byte there stays stray, since the seam does not complete it. -/
theorem glyphs_append {first second : Text} (seam : Seam first second) :
    glyphs (first ++ second) = glyphs first ++ glyphs second := by
  induction length : first.length using Nat.strongRecOn generalizing first with
  | ind size shorter =>
    rcases glyphs_cases first with rfl | ⟨c, rest, rfl⟩ | ⟨byte, rest, rfl, stray⟩
    · rw [glyphs, List.nil_append, List.nil_append]
    · have width := List.length_pos_iff.mpr (Glyph.bytes_ne_nil (.char c))
      have fewer : rest.length < size := by
        rw [← length, List.length_append]
        exact Nat.lt_add_of_pos_left width
      have behind := shorter rest.length fewer seam.of_append rfl
      rw [List.append_assoc, glyphs_ofChar_append, glyphs_ofChar_append, behind, List.cons_append]
    · have fewer : rest.length < size := by
        rw [← length, List.length_cons]
        exact Nat.lt_succ_self _
      have behind := shorter rest.length fewer (@Seam.of_append [byte] rest second seam) rfl
      rw [List.cons_append, glyphs_stray (stray_append seam stray), glyphs_stray stray, behind,
        List.cons_append]

end Text

end Astro
