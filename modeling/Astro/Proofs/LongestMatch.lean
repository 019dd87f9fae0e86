import Astro.Proofs.Anchors
import Astro.Proofs.Words

/-!
# Tokens are longest matches

What a token is depends on the bytes from its start alone. Where they start with a
digit, the token is the longest numeral among the beginnings of these bytes; where they
start with a letter, it is the longest word. Two stars are one token, the other
punctuation characters are tokens of their own, and any other character or stray byte is
a token that is illegal.

The scanner decides about a fraction and an exponent before it takes them, so the
argument goes over the parts of a numeral: when a numeral stands at the front of a text
and another part is still to come, the scanner stands where that part starts.
-/

namespace Astro

namespace Numeral

/-- One digit or more. They are those of ASCII. -/
def Digits (cs : List Char) : Prop := cs ≠ [] ∧ ∀ c ∈ cs, c.isDigit = true

/-- A point with digits behind it, or nothing. A point without digits belongs to no numeral. -/
def Fraction (cs : List Char) : Prop := cs = [] ∨ ∃ digits, cs = '.' :: digits ∧ Digits digits

/-- A plus or a minus, or nothing. It may stand before the digits of an exponent only. -/
def Sign (cs : List Char) : Prop := cs = [] ∨ cs = ['+'] ∨ cs = ['-']

/-- A mark, a sign and digits, or nothing. The mark is a letter of either case. -/
def Exponent (cs : List Char) : Prop :=
  cs = [] ∨ ∃ mark sign digits, cs = mark :: (sign ++ digits) ∧ (mark = 'e' ∨ mark = 'E') ∧
    Sign sign ∧ Digits digits

end Numeral

namespace Text

/-- Digits, perhaps a fraction, and perhaps an exponent. This is the language of numerals, stated
without the scanner. -/
def IsNumeral (text : Text) : Prop :=
  ∃ whole fraction exponent, text = ofChars (whole ++ fraction ++ exponent) ∧
    Numeral.Digits whole ∧ Numeral.Fraction fraction ∧ Numeral.Exponent exponent

/-- A text is the longest beginning of another one that has a given form. -/
structure Longest (form : Text → Prop) (source found : Text) : Prop where
  begins : found <+: source
  formed : form found
  longest : ∀ other, other <+: source → form other → other.length ≤ found.length

/-- Characters stand at the front of a text when their bytes do, and what is behind these bytes is
read as if it stood alone. -/
theorem glyphs_ofChars_append (cs : List Char) (rest : Text) :
    glyphs (ofChars cs ++ rest) = cs.map .char ++ glyphs rest := by
  induction cs with
  | nil => rfl
  | cons c others remaining =>
    have split : ofChars (c :: others) ++ rest = ofChar c ++ (ofChars others ++ rest) := by
      rw [ofChars, List.flatMap_cons, List.append_assoc]
      rfl
    rw [split, glyphs_ofChar_append, remaining]
    rfl

/-- Characters are read back from their bytes, each as itself. -/
theorem chars_ofChars (cs : List Char) : (ofChars cs).chars = cs := by
  have read := glyphs_ofChars_append cs []
  rw [List.append_nil] at read
  rw [chars, read]
  simp [glyphs, Glyph.value, Function.comp_def]

/-- Fewer glyphs from the front of a list take up no more bytes. -/
theorem length_ofGlyphs_take_le (glyphs : List Glyph) {fewer more : Nat} (ordered : fewer ≤ more) :
    (ofGlyphs (glyphs.take fewer)).length ≤ (ofGlyphs (glyphs.take more)).length := by
  obtain ⟨gap, rfl⟩ := Nat.exists_eq_add_of_le ordered
  rw [List.take_add, ofGlyphs_append, List.length_append]
  exact Nat.le_add_right _ _

/-- Characters that stand at the front of a text are its first glyphs. -/
theorem exists_of_ofChars_begins {source : Text} {cs : List Char} (begins : ofChars cs <+: source) :
    ∃ tail, source.glyphs = cs.map .char ++ tail := by
  obtain ⟨rest, rfl⟩ := begins
  exact ⟨glyphs rest, glyphs_ofChars_append cs rest⟩

/-- A text starts with a character exactly when that is its first glyph. -/
theorem firstChar?_of_reads {source : Text} {first : Glyph} {rest : List Glyph}
    (reads : source.glyphs = first :: rest) (c : Char) :
    source.firstChar? = some c ↔ first = .char c := by
  cases first with
  | stray byte => simp [firstChar?_of_stray reads]
  | char found =>
    have split : source = ofChar found ++ ofGlyphs rest := (glyphs_eq_cons reads).1
    rw [split, firstChar?_ofChar]
    simp

/-- A text without white space, and so without a newline. -/
structure Unspaced (text : Text) : Prop where
  blank : ∀ c ∈ text.chars, isBlank c = false
  line : newline ∉ text

/-- A text none of whose glyphs is white space. -/
theorem unspaced_of_glyphs {text : Text}
    (visible : ∀ glyph ∈ text.glyphs, isBlankGlyph glyph = false) : text.Unspaced := by
  constructor
  · intro c member
    obtain ⟨glyph, read, rfl⟩ := List.mem_map.mp member
    exact visible glyph read
  · intro member
    obtain ⟨glyph, read, value⟩ := List.mem_map.mp (newline_mem_iff.mp member)
    have seen := visible glyph read
    rw [isBlankGlyph, value] at seen
    exact absurd seen (by decide)

end Text

/-- The punctuation characters that are tokens of their own. -/
def Token.symbols : List (Char × Token.Kind) :=
  [('(', .leftParen), (')', .rightParen), (',', .comma), (';', .semicolon), ('=', .assign),
   ('+', .plus), ('-', .minus), ('*', .star), ('/', .slash), ('%', .percent)]

namespace Piece

open Numeral Text

/-- Digits are no letters. -/
theorem not_isLetter_of_isDigit {c : Char} (digit : c.isDigit = true) : isLetter c = false := by
  have bounds : 48 ≤ c.toNat ∧ c.toNat ≤ 57 := by
    simpa [Char.isDigit, UInt32.le_iff_toNat_le] using digit
  have all : ∀ above < 10, isLetter (Char.ofNat (48 + above)) = false := by decide +kernel
  have shown := all (c.toNat - 48) (by omega)
  rwa [show 48 + (c.toNat - 48) = c.toNat by omega, Char.ofNat_toNat] at shown

/-- Digits at the front are counted, and then the digits that follow them. -/
theorem countWhile_digits {cs : List Char} (digits : ∀ c ∈ cs, c.isDigit = true)
    (rest : List Glyph) :
    countWhile isDigit (cs.map .char ++ rest) = cs.length + countWhile isDigit rest := by
  have accepted : ∀ glyph ∈ cs.map Glyph.char, isDigit glyph = true := by
    simpa [isDigit, Glyph.value] using digits
  rw [countWhile_append accepted, List.length_map]

/-- Nothing is counted in front of a glyph that is not in the class. -/
theorem countWhile_of_not {accepts : Glyph → Bool} {first : Glyph} (other : accepts first = false)
    (rest : List Glyph) : countWhile accepts (first :: rest) = 0 := by
  rw [countWhile, List.takeWhile_cons_of_neg (by simp [other]), List.length_nil]

/-- Digits are at least one character. So a numeral has a character to start with. -/
theorem length_pos_of_digits {cs : List Char} (digits : Digits cs) : 0 < cs.length :=
  List.length_pos_iff.mpr digits.1

/-- A fraction at the front is taken, together with the digits that follow it. -/
theorem fractionLength_append {digits : List Char} (some : Digits digits) (rest : List Glyph) :
    fractionLength (.char '.' :: (digits.map .char ++ rest)) =
      1 + digits.length + countWhile isDigit rest := by
  have counted := countWhile_digits some.2 rest
  have positive := length_pos_of_digits some
  simp only [fractionLength, List.drop_succ_cons, List.drop_zero, counted]
  rw [if_pos ⟨rfl, by omega⟩]
  omega

/-- No fraction is taken where no point stands, whatever follows. -/
theorem fractionLength_of_not {first : Glyph} (other : first.value ≠ '.') (rest : List Glyph) :
    fractionLength (first :: rest) = 0 := by
  have noPoint : startsWith '.' (first :: rest) = false := by simpa [startsWith] using other
  simp [fractionLength, noPoint]

/-- A sign at the front of digits is taken, and nothing is where the digits start at once. No
digit is a sign, so that none of the digits is taken for one. -/
theorem signLength_append {sign digits : List Char} (signed : Sign sign) (some : Digits digits)
    (rest : List Glyph) : signLength (sign.map .char ++ (digits.map .char ++ rest)) = sign.length := by
  rcases signed with rfl | rfl | rfl
  · obtain ⟨first, others, rfl⟩ := List.exists_cons_of_ne_nil some.1
    have digit := some.2 first List.mem_cons_self
    have noPlus : first ≠ '+' := by
      rintro rfl
      exact absurd digit (by decide)
    have noMinus : first ≠ '-' := by
      rintro rfl
      exact absurd digit (by decide)
    simp [signLength, startsWith, Glyph.value, noPlus, noMinus]
  · simp [signLength, startsWith, Glyph.value]
  · simp [signLength, startsWith, Glyph.value]

/-- An exponent at the front is taken, together with the digits that follow it. The digits go on
as far as there are any, and a mark with a sign alone would be no exponent. -/
theorem exponentLength_append {mark : Char} {sign digits : List Char}
    (marked : mark = 'e' ∨ mark = 'E') (signed : Sign sign) (some : Digits digits)
    (rest : List Glyph) :
    exponentLength (.char mark :: (sign.map .char ++ (digits.map .char ++ rest))) =
      1 + sign.length + digits.length + countWhile isDigit rest := by
  have length := signLength_append signed some rest
  have counted := countWhile_digits some.2 rest
  have positive := length_pos_of_digits some
  have behind : List.drop (1 + sign.length)
      (Glyph.char mark :: (sign.map .char ++ (digits.map .char ++ rest))) =
      digits.map .char ++ rest := by
    rw [Nat.add_comm, List.drop_succ_cons]
    exact List.drop_left' (List.length_map _)
  have starts : startsWith 'e' (.char mark :: (sign.map .char ++ (digits.map .char ++ rest))) = true ∨
      startsWith 'E' (.char mark :: (sign.map .char ++ (digits.map .char ++ rest))) = true := by
    simpa [startsWith, Glyph.value] using marked
  simp only [exponentLength, List.drop_succ_cons, List.drop_zero, length, behind, counted]
  rw [if_pos ⟨starts, by omega⟩]
  omega

/-- Behind digits that no digit follows, a numeral goes on with its fraction. -/
theorem numeralLength_append {digits : List Char} (counted : ∀ c ∈ digits, c.isDigit = true)
    {rest : List Glyph} (stops : countWhile isDigit rest = 0) :
    numeralLength (digits.map .char ++ rest) =
      digits.length + fractionLength rest + exponentLength (rest.drop (fractionLength rest)) := by
  have whole := countWhile_digits counted rest
  have behind (more : Nat) :
      List.drop (digits.length + more) (digits.map .char ++ rest) = rest.drop more := by
    rw [← List.drop_drop, List.drop_left' (List.length_map _)]
  simp only [numeralLength, whole, stops, Nat.add_zero, behind]
  rw [← Nat.add_zero digits.length, behind, List.drop_zero, Nat.add_zero]

/-- The parts of a numeral at the front of a list reach no further than the numeral that is taken
there.

Proof: the digits are taken first, and a fraction and an exponent are there only if they are
complete. Each of them is taken whenever it stands where the part before it ends, and taking more
digits for one part only moves the others. -/
theorem le_numeralLength {digits fraction exponent : List Char}
    (counted : ∀ c ∈ digits, c.isDigit = true) (fractional : Fraction fraction)
    (scaled : Exponent exponent) (rest : List Glyph) :
    digits.length + fraction.length + exponent.length ≤ numeralLength
      (digits.map .char ++ (fraction.map .char ++ (exponent.map .char ++ rest))) := by
  have pointOther : isDigit (.char '.') = false := by decide
  have markOther {mark : Char} (marked : mark = 'e' ∨ mark = 'E') :
      isDigit (.char mark) = false ∧ mark ≠ '.' := by
    rcases marked with rfl | rfl <;> decide
  rcases fractional with rfl | ⟨places, rfl, some⟩
  · rcases scaled with rfl | ⟨mark, sign, power, rfl, marked, signed, powered⟩
    · have whole := countWhile_digits counted rest
      simp only [numeralLength, List.map_nil, List.nil_append, List.length_nil, whole]
      omega
    · obtain ⟨noDigit, noPoint⟩ := markOther marked
      have taken := exponentLength_append marked signed powered rest
      rw [List.map_nil, List.nil_append, List.map_cons, List.cons_append, List.map_append,
        List.append_assoc, numeralLength_append counted (countWhile_of_not noDigit _),
        @fractionLength_of_not (.char mark) noPoint, List.drop_zero, taken]
      simp only [List.length_nil, List.length_cons, List.length_append]
      omega
  · rcases scaled with rfl | ⟨mark, sign, power, rfl, marked, signed, powered⟩
    · have taken := fractionLength_append some rest
      rw [List.map_cons, List.cons_append, List.map_nil, List.nil_append,
        numeralLength_append counted (countWhile_of_not pointOther _), taken]
      simp only [List.length_nil, List.length_cons]
      omega
    · obtain ⟨noDigit, -⟩ := markOther marked
      have last := exponentLength_append marked signed powered rest
      have taken := fractionLength_append some
        (.char mark :: (sign.map .char ++ (power.map .char ++ rest)))
      rw [countWhile_of_not noDigit, Nat.add_zero] at taken
      have behind : List.drop (1 + places.length) (Glyph.char '.' :: (places.map .char ++
          .char mark :: (sign.map .char ++ (power.map .char ++ rest)))) =
          .char mark :: (sign.map .char ++ (power.map .char ++ rest)) := by
        rw [Nat.add_comm, List.drop_succ_cons]
        exact List.drop_left' (List.length_map _)
      rw [List.map_cons, List.cons_append, List.map_cons, List.map_append, List.cons_append,
        List.append_assoc, numeralLength_append counted (countWhile_of_not pointOther _), taken,
        behind, last]
      simp only [List.length_cons, List.length_append]
      omega

/-- The glyphs counted as digits are digits. Counting them stops at the first glyph that is none. -/
theorem isDigit_of_take {glyphs : List Glyph} {c : Char}
    (member : c ∈ (glyphs.take (countWhile isDigit glyphs)).map Glyph.value) : c.isDigit = true := by
  obtain ⟨glyph, taken, rfl⟩ := List.mem_map.mp member
  rw [take_countWhile] at taken
  have digit : isDigit glyph = true := List.mem_takeWhile_imp taken
  exact digit

/-- As many glyphs as are counted as digits, when there are any, are digits of a numeral. -/
theorem digits_of_take {glyphs : List Glyph} (some : 0 < countWhile isDigit glyphs) :
    Digits ((glyphs.take (countWhile isDigit glyphs)).map Glyph.value) := by
  refine ⟨?_, fun c member => isDigit_of_take member⟩
  intro none
  rw [List.map_eq_nil_iff, take_countWhile] at none
  rw [countWhile, none, List.length_nil] at some
  exact absurd some (Nat.lt_irrefl 0)

/-- What is taken as a fraction is one: a point with digits, or nothing at all. -/
theorem fraction_of_take (glyphs : List Glyph) :
    Fraction ((glyphs.take (fractionLength glyphs)).map Glyph.value) := by
  simp only [fractionLength]
  split
  · next point =>
    obtain ⟨rest, rfl⟩ := exists_of_startsWith point.1 (by decide)
    refine .inr ⟨_, ?_, digits_of_take point.2⟩
    rw [Nat.add_comm, List.take_succ_cons, List.map_cons]
    rfl
  · exact .inl (by rw [List.take_zero, List.map_nil])

/-- What is taken as a sign is one, or nothing. -/
theorem sign_of_take (glyphs : List Glyph) :
    Sign ((glyphs.take (signLength glyphs)).map Glyph.value) := by
  unfold signLength
  split
  · next signed =>
    rcases signed with plus | minus
    · obtain ⟨rest, rfl⟩ := exists_of_startsWith plus (by decide)
      exact .inr (.inl rfl)
    · obtain ⟨rest, rfl⟩ := exists_of_startsWith minus (by decide)
      exact .inr (.inr rfl)
  · exact .inl (by rw [List.take_zero, List.map_nil])

/-- What is taken as an exponent is one: a mark, perhaps a sign, and digits, or nothing at all. A
mark without digits behind it is left to the word that may start there. -/
theorem exponent_of_take (glyphs : List Glyph) :
    Exponent ((glyphs.take (exponentLength glyphs)).map Glyph.value) := by
  simp only [exponentLength]
  split
  · next marked =>
    obtain ⟨mark, rest, rfl, kind⟩ : ∃ mark rest, glyphs = .char mark :: rest ∧
        (mark = 'e' ∨ mark = 'E') := by
      rcases marked.1 with small | large
      · obtain ⟨rest, rfl⟩ := exists_of_startsWith small (by decide)
        exact ⟨_, rest, rfl, .inl rfl⟩
      · obtain ⟨rest, rfl⟩ := exists_of_startsWith large (by decide)
        exact ⟨_, rest, rfl, .inr rfl⟩
    have some := marked.2
    rw [List.drop_one, List.tail_cons, Nat.add_comm 1 (signLength rest), List.drop_succ_cons] at some
    refine .inr ⟨mark, _, _, ?_, kind, sign_of_take rest, digits_of_take some⟩
    rw [List.drop_one, List.tail_cons, Nat.add_comm 1 (signLength rest), List.drop_succ_cons,
      Nat.add_right_comm, List.take_succ_cons, List.take_add, List.map_cons, List.map_append]
    rfl
  · exact .inl (by rw [List.take_zero, List.map_nil])

/-- What is taken behind a first digit makes a numeral with it. -/
theorem isNumeral_of_take {first : Glyph} (digit : isDigit first = true) (rest : List Glyph) :
    IsNumeral (ofChars ((first :: rest.take (numeralLength rest)).map Glyph.value)) := by
  have fraction := fraction_of_take (rest.drop (countWhile isDigit rest))
  have exponent := exponent_of_take (rest.drop (countWhile isDigit rest +
    fractionLength (rest.drop (countWhile isDigit rest))))
  refine ⟨first.value :: (rest.take (countWhile isDigit rest)).map Glyph.value, _, _, ?_, ?_,
    fraction, exponent⟩
  · rw [numeralLength, List.take_add, List.take_add, List.map_cons, List.map_append,
      List.map_append, List.cons_append, List.cons_append]
  · refine ⟨List.cons_ne_nil _ _, List.forall_mem_cons.mpr ⟨digit, ?_⟩⟩
    intro c member
    exact isDigit_of_take member

/-- What a token is when it starts with a glyph before others, and how many of those
belong to it. -/
inductive Meant (first : Glyph) (rest : List Glyph) : Token.Kind → Nat → Prop where
  | number (digit : isDigit first = true) : Meant first rest .number (numeralLength rest)
  | word (starts : startsWord first = true) :
      Meant first rest
        (.ofWord (ofGlyphs (first :: rest.take (countWhile continuesWord rest))))
        (countWhile continuesWord rest)
  | power (star : first.value = '*') (again : startsWith '*' rest = true) :
      Meant first rest .power 1
  | symbol (noDigit : isDigit first = false) (noWord : startsWord first = false)
      (noPower : ¬ (first.value = '*' ∧ startsWith '*' rest = true)) :
      Meant first rest ((Token.Kind.ofSymbol? first.value).getD .illegal) 0

/-- A piece that is no layout is meant as a token. The tests that decide its kind also settle how
many glyphs belong to it. -/
theorem meant_of_kindAt {first : Glyph} {rest : List Glyph} {kind : Token.Kind}
    (decided : kindAt first rest = some kind) : Meant first rest kind (extent first rest) := by
  unfold kindAt at decided
  unfold extent
  by_cases white : isBlankGlyph first = true
  · simp [white] at decided
  by_cases comment : first.value = '/' ∧ startsWith '/' rest = true
  · simp [white, comment] at decided
  rw [if_neg white, if_neg comment] at decided ⊢
  by_cases digit : isDigit first = true
  · rw [if_pos digit] at decided ⊢
    cases decided
    exact .number digit
  by_cases starts : startsWord first = true
  · rw [if_neg digit, if_pos starts] at decided ⊢
    cases decided
    exact .word starts
  by_cases power : first.value = '*' ∧ startsWith '*' rest = true
  · rw [if_neg digit, if_neg starts, if_pos power] at decided ⊢
    cases decided
    exact .power power.1 power.2
  · rw [if_neg digit, if_neg starts, if_neg power] at decided ⊢
    cases decided
    exact .symbol (by simpa using digit) (by simpa using starts) power

section Meant

variable {c : Char} {rest : List Glyph} {kind : Token.Kind} {length : Nat}

/-- A star is neither a digit nor a letter, so that it starts only a star or a power. -/
theorem star_other : isDigit (.char '*') = false ∧ startsWord (.char '*') = false := by
  decide +kernel

/-- Punctuation characters are neither digits nor letters. So none of them is mistaken for the
start of a number or a word. -/
theorem symbol_other {own : Token.Kind} (listed : (c, own) ∈ Token.symbols) :
    isDigit (.char c) = false ∧ startsWord (.char c) = false := by
  have all : ∀ entry ∈ Token.symbols,
      isDigit (.char entry.1) = false ∧ startsWord (.char entry.1) = false := by
    decide +kernel
  exact all (c, own) listed

/-- Each punctuation character has its own kind. The list has no character twice. -/
theorem ofSymbol?_of_listed {own : Token.Kind} (listed : (c, own) ∈ Token.symbols) :
    Token.Kind.ofSymbol? c = some own := by
  have all : ∀ entry ∈ Token.symbols, Token.Kind.ofSymbol? entry.1 = some entry.2 := by
    decide
  exact all (c, own) listed

/-- A character that is not listed has no kind, so that it makes an illegal token. -/
theorem ofSymbol?_of_unlisted (unlisted : ∀ own, (c, own) ∉ Token.symbols) :
    Token.Kind.ofSymbol? c = none := by
  cases found : Token.Kind.ofSymbol? c with
  | none => rfl
  | some own =>
    refine absurd ?_ (unlisted own)
    unfold Token.Kind.ofSymbol? at found
    split at found <;> cases found <;> decide

/-- What starts with a digit is a number, with all that a numeral takes behind its first digit. A
digit is no letter and no star, so that only the rule for numerals applies to it. -/
theorem Meant.of_digit (meant : Meant (.char c) rest kind length) (digit : c.isDigit = true) :
    kind = .number ∧ length = numeralLength rest := by
  cases meant with
  | number _ => exact ⟨rfl, rfl⟩
  | word starts =>
    have letter : isLetter c = true := starts
    rw [not_isLetter_of_isDigit digit] at letter
    cases letter
  | power star again =>
    obtain rfl : c = '*' := star
    exact absurd digit (by decide)
  | symbol noDigit noWord noPower =>
    have none : c.isDigit = false := noDigit
    rw [digit] at none
    cases none

/-- What starts with a letter is a word, with all characters behind it that can stand in one. Its
kind is decided by the whole word. -/
theorem Meant.of_letter (meant : Meant (.char c) rest kind length) (letter : isLetter c = true) :
    kind = .ofWord (ofGlyphs (.char c :: rest.take (countWhile continuesWord rest))) ∧
      length = countWhile continuesWord rest := by
  cases meant with
  | number digit =>
    rw [@not_isLetter_of_isDigit c digit] at letter
    cases letter
  | word starts => exact ⟨rfl, rfl⟩
  | power star again =>
    obtain rfl : c = '*' := star
    have none : isLetter '*' = false := star_other.2
    rw [none] at letter
    cases letter
  | symbol noDigit noWord noPower =>
    have none : isLetter c = false := noWord
    rw [letter] at none
    cases none

/-- Two stars are a power sign, and the second star is all that belongs to the first. -/
theorem Meant.of_stars (meant : Meant (.char '*') (.char '*' :: rest) kind length) :
    kind = .power ∧ length = 1 := by
  cases meant with
  | number digit =>
    rw [star_other.1] at digit
    cases digit
  | word starts =>
    rw [star_other.2] at starts
    cases starts
  | power star again => exact ⟨rfl, rfl⟩
  | symbol noDigit noWord noPower => exact absurd ⟨rfl, rfl⟩ noPower

/-- A character that is no digit and no letter, and no star before another one, stands
for itself. -/
theorem Meant.of_other (meant : Meant (.char c) rest kind length)
    (noDigit : c.isDigit = false) (noLetter : isLetter c = false)
    (noPower : ¬ (c = '*' ∧ startsWith '*' rest = true)) :
    kind = (Token.Kind.ofSymbol? c).getD .illegal ∧ length = 0 := by
  cases meant with
  | number digit =>
    have some : c.isDigit = true := digit
    rw [noDigit] at some
    cases some
  | word starts =>
    have some : isLetter c = true := starts
    rw [noLetter] at some
    cases some
  | power star again => exact absurd ⟨star, again⟩ noPower
  | symbol _ _ _ => exact ⟨rfl, rfl⟩

/-- Only digits start numbers, and only letters start words. So the kind of a token tells how its
lexeme begins. Words are names or the reserved word, and no symbol is one of these or a number. -/
theorem Meant.starts {first : Glyph} (meant : Meant first rest kind length) :
    (kind = .number → isDigit first = true) ∧
      (kind = .name ∨ kind = .printWord → startsWord first = true) := by
  cases meant with
  | number digit => simp [digit]
  | word starts =>
    refine ⟨?_, fun _ => starts⟩
    unfold Token.Kind.ofWord
    split <;> simp
  | power star again => simp
  | symbol noDigit noWord noPower =>
    obtain ⟨noName, noReserved⟩ := ofSymbol?_not_word first.value
    refine ⟨?_, fun named => absurd named (not_or.mpr ⟨noName, noReserved⟩)⟩
    unfold Token.Kind.ofSymbol?
    split <;> simp

end Meant

section Spelling

variable {source : Text} {first : Glyph} {rest : List Glyph} {length : Nat}

/-- The spelling of the first glyphs of a text. -/
def spelling (first : Glyph) (rest : List Glyph) (length : Nat) : Text :=
  ofChars ((first :: rest.take length).map Glyph.value)

/-- Whole glyphs are spelled by their bytes. -/
theorem spelling_eq (whole : ∀ glyph ∈ first :: rest.take length, Whole glyph) :
    spelling first rest length = ofGlyphs ((first :: rest).take (length + 1)) :=
  @lexeme_eq_ofGlyphs ⟨none, first :: rest.take length⟩ whole

/-- Whole glyphs at the front of a text are spelled by a beginning of it. -/
theorem spelling_begins (reads : source.glyphs = first :: rest)
    (whole : ∀ glyph ∈ first :: rest.take length, Whole glyph) :
    spelling first rest length <+: source := by
  refine ⟨ofGlyphs ((first :: rest).drop (length + 1)), ?_⟩
  rw [spelling_eq whole, ← ofGlyphs_append, List.take_append_drop, ← reads, glyphs_bytes]

/-- Characters at the front of a text, no more than the glyphs that are spelled, are no
longer than the spelling. -/
theorem length_ofChars_le (whole : ∀ glyph ∈ first :: rest.take length, Whole glyph)
    {cs : List Char} {tail : List Glyph} (split : first :: rest = cs.map .char ++ tail)
    (short : cs.length ≤ length + 1) :
    (ofChars cs).length ≤ (spelling first rest length).length := by
  have front : cs.map Glyph.char = (first :: rest).take cs.length := by
    rw [split, List.take_left' (List.length_map _)]
  have bytes : ofChars cs = ofGlyphs ((first :: rest).take cs.length) := by
    rw [← front, ofGlyphs, List.flatMap_map]
    rfl
  rw [bytes, spelling_eq whole]
  exact length_ofGlyphs_take_le _ short

/-- The scanner takes the longest numeral that the text begins with: what it takes is one, and any
other one at the front is no longer. -/
theorem longest_numeral (reads : source.glyphs = first :: rest) (digit : isDigit first = true)
    (whole : ∀ glyph ∈ first :: rest.take (numeralLength rest), Whole glyph) :
    source.Longest IsNumeral (spelling first rest (numeralLength rest)) := by
  refine ⟨spelling_begins reads whole, isNumeral_of_take digit rest, ?_⟩
  rintro other begins ⟨integer, fraction, exponent, rfl, ⟨some, digits⟩, fractional, scaled⟩
  obtain ⟨tail, split⟩ := exists_of_ofChars_begins begins
  rw [reads] at split
  refine length_ofChars_le whole split ?_
  obtain ⟨c, others, rfl⟩ := List.exists_cons_of_ne_nil some
  have behind : rest = others.map .char ++
      (fraction.map .char ++ (exponent.map .char ++ tail)) := by
    simpa [List.append_assoc] using (List.cons.inj split).2
  have reach := le_numeralLength (List.forall_mem_cons.mp digits).2 fractional scaled tail
  rw [← behind] at reach
  simp only [List.length_append, List.length_cons]
  omega

/-- The scanner takes the longest word that the text begins with. A word that reached further
would have to go on with a character that stands in no word. -/
theorem longest_word (reads : source.glyphs = first :: rest) (starts : startsWord first = true)
    (whole : ∀ glyph ∈ first :: rest.take (countWhile continuesWord rest), Whole glyph) :
    source.Longest IsWord (spelling first rest (countWhile continuesWord rest)) := by
  refine ⟨spelling_begins reads whole, ?_, ?_⟩
  · refine ⟨first.value, _, rfl, starts, ?_⟩
    intro c member
    obtain ⟨glyph, taken, rfl⟩ := List.mem_map.mp member
    rw [take_countWhile] at taken
    have continues := List.mem_takeWhile_imp taken
    simpa [continuesWord, startsWord, isDigit, or_assoc] using continues
  · rintro other begins ⟨c, others, rfl, -, inner⟩
    obtain ⟨tail, split⟩ := exists_of_ofChars_begins begins
    rw [reads] at split
    refine length_ofChars_le whole split ?_
    have behind : rest = others.map .char ++ tail := (List.cons.inj split).2
    have accepted : ∀ glyph ∈ others.map Glyph.char, continuesWord glyph = true := by
      simpa [continuesWord, startsWord, isDigit, Glyph.value, or_assoc] using inner
    have reach := @countWhile_append continuesWord _ tail accepted
    rw [← behind, List.length_map] at reach
    rw [List.length_cons]
    omega

end Spelling

end Piece

namespace Token

open Text Piece

/-- A token is what the bytes from its start say, and no more or less of them. -/
structure Munched (source : Text) (token : Token) : Prop where
  /-- Where a digit stands, the token is the longest numeral. -/
  numeral : ∀ c, source.firstChar? = some c → c.isDigit = true →
    token.kind = .number ∧ source.Longest IsNumeral token.lexeme
  /-- Where a letter stands, the token is the longest word, reserved or not. -/
  word : ∀ c, source.firstChar? = some c → isLetter c = true →
    (token.kind = .name ∨ token.kind = .printWord) ∧ source.Longest IsWord token.lexeme ∧
      (token.kind = .printWord ↔ token.lexeme = ofString "print")
  /-- Two stars are one token. -/
  power : ofString "**" <+: source → token.kind = .power ∧ token.lexeme = ofString "**"
  /-- Other punctuation characters are tokens of their own kinds. -/
  symbol : ∀ c own, source.firstChar? = some c → (c, own) ∈ symbols →
    ¬ ofString "**" <+: source → token.kind = own ∧ token.lexeme = ofChar c
  /-- Any other character is an illegal token. -/
  other : ∀ c, source.firstChar? = some c → c.isDigit = false → isLetter c = false →
    (∀ own, (c, own) ∉ symbols) → token.kind = .illegal ∧ token.lexeme = ofChar c
  /-- So is a byte that is part of no character; it is spelled by the replacement
  character. -/
  stray : source.firstChar? = none → token.kind = .illegal ∧
    token.lexeme = ofChar Glyph.replacement ∧
    token.span.stop.offset = token.span.start.offset + 1
  /-- A token that starts with a character covers its spelling. -/
  covers : source.firstChar? ≠ none → token.lexeme <+: source ∧
    token.span.stop.offset = token.span.start.offset + token.lexeme.length
  /-- Numbers start with digits. -/
  numbers : token.kind = .number → ∃ c, source.firstChar? = some c ∧ c.isDigit = true
  /-- Names and the reserved word start with letters. -/
  words : token.kind = .name ∨ token.kind = .printWord →
    ∃ c, source.firstChar? = some c ∧ isLetter c = true
  /-- White space stands neither in a token nor in the bytes that it covers. -/
  unspaced : Unspaced token.lexeme ∧
    Unspaced (source.take (token.span.stop.offset - token.span.start.offset).toNat)

/-- A token is scanned from a glyph and some of those behind it. -/
structure ScannedFrom (source : Text) (first : Glyph) (rest : List Glyph) (token : Token) :
    Prop where
  reads : source.glyphs = first :: rest
  decided : kindAt first rest = some token.kind
  spelled : token.lexeme = spelling first rest (extent first rest)
  width : token.span.stop.offset = token.span.start.offset +
    (ofGlyphs ((first :: rest).take (extent first rest + 1))).length

namespace ScannedFrom

variable {source : Text} {first : Glyph} {rest : List Glyph} {token : Token}

/-- A scanned token is the piece that is cut off in front of the text. -/
theorem cut (scanned : ScannedFrom source first rest token) :
    Cut first rest (some token.kind) (extent first rest) := by
  have decided := isCut first rest
  rwa [scanned.decided] at decided

/-- A scanned token is what its first glyph means in front of the others. -/
theorem meant (scanned : ScannedFrom source first rest token) :
    Meant first rest token.kind (extent first rest) := meant_of_kindAt scanned.decided

/-- The first character of the bytes is the first glyph of the token. -/
theorem first_eq (scanned : ScannedFrom source first rest token) {c : Char}
    (starts : source.firstChar? = some c) : first = .char c :=
  (firstChar?_of_reads scanned.reads c).mp starts

/-- A token of one glyph is spelled by the character of that glyph. For a stray byte this is
U+FFFD. -/
theorem lexeme_single (scanned : ScannedFrom source first rest token)
    (single : extent first rest = 0) : token.lexeme = ofChar first.value := by
  rw [scanned.spelled, single, spelling, List.take_zero, ofChars, List.map_singleton,
    List.flatMap_singleton]

/-- In front of a digit the token is a number, and its lexeme is the longest numeral that the
bytes begin with. -/
theorem numeral (scanned : ScannedFrom source first rest token) {c : Char}
    (starts : source.firstChar? = some c) (digit : c.isDigit = true) :
    token.kind = .number ∧ source.Longest IsNumeral token.lexeme := by
  obtain rfl := scanned.first_eq starts
  obtain ⟨kind, length⟩ := scanned.meant.of_digit digit
  have whole := scanned.cut.whole
  rw [length] at whole
  refine ⟨kind, ?_⟩
  rw [scanned.spelled, length]
  exact longest_numeral scanned.reads digit whole

/-- In front of a letter the token is a word, and its lexeme is the longest one that the bytes
begin with. It is the keyword exactly when it is spelled `print`. -/
theorem word (scanned : ScannedFrom source first rest token) {c : Char}
    (starts : source.firstChar? = some c) (letter : isLetter c = true) :
    (token.kind = .name ∨ token.kind = .printWord) ∧ source.Longest IsWord token.lexeme ∧
      (token.kind = .printWord ↔ token.lexeme = ofString "print") := by
  obtain rfl := scanned.first_eq starts
  obtain ⟨kind, length⟩ := scanned.meant.of_letter letter
  have whole := scanned.cut.whole
  rw [length] at whole
  have spelled : token.lexeme = spelling (.char c) rest (countWhile continuesWord rest) := by
    rw [scanned.spelled, length]
  have named : token.kind = .ofWord token.lexeme := by
    rw [spelled, spelling_eq whole]
    exact kind
  refine ⟨?_, ?_, ?_⟩
  · rw [named, Kind.ofWord]
    split
    · exact .inr rfl
    · exact .inl rfl
  · rw [spelled]
    exact longest_word scanned.reads letter whole
  · rw [named, Kind.ofWord]
    split
    · next reserved => simp [reserved]
    · next ordinary => simp [ordinary]

/-- Two stars are at the front of the bytes exactly when they are the first two glyphs. -/
theorem stars_iff (scanned : ScannedFrom source first rest token) :
    ofString "**" <+: source ↔ first = .char '*' ∧ startsWith '*' rest = true := by
  constructor
  · intro begins
    obtain ⟨tail, split⟩ := @exists_of_ofChars_begins source ['*', '*'] begins
    rw [scanned.reads] at split
    obtain ⟨rfl, rfl⟩ := List.cons.inj split
    exact ⟨rfl, rfl⟩
  · rintro ⟨rfl, again⟩
    obtain ⟨more, rfl⟩ := exists_of_startsWith again (by decide)
    exact ⟨ofGlyphs more, (@bytes_of_reads source [.char '*', .char '*'] more scanned.reads).symm⟩

/-- In front of two stars the token is a power sign. -/
theorem power (scanned : ScannedFrom source first rest token)
    (stars : ofString "**" <+: source) :
    token.kind = .power ∧ token.lexeme = ofString "**" := by
  obtain ⟨rfl, again⟩ := scanned.stars_iff.mp stars
  obtain ⟨more, rfl⟩ := exists_of_startsWith again (by decide)
  obtain ⟨kind, length⟩ := scanned.meant.of_stars
  refine ⟨kind, ?_⟩
  rw [scanned.spelled, length]
  rfl

/-- A character that starts neither a numeral nor a word nor a power is a token by itself, of the
kind that it has as punctuation, if any. -/
theorem single (scanned : ScannedFrom source first rest token) {c : Char}
    (starts : source.firstChar? = some c) (noDigit : c.isDigit = false)
    (noLetter : isLetter c = false) (noPower : ¬ ofString "**" <+: source) :
    token.kind = (Kind.ofSymbol? c).getD .illegal ∧ token.lexeme = ofChar c := by
  obtain rfl := scanned.first_eq starts
  have alone : ¬ (c = '*' ∧ startsWith '*' rest = true) := by
    rintro ⟨rfl, again⟩
    exact noPower (scanned.stars_iff.mpr ⟨rfl, again⟩)
  obtain ⟨kind, length⟩ := scanned.meant.of_other noDigit noLetter alone
  exact ⟨kind, scanned.lexeme_single length⟩

/-- In front of a punctuation character the token is that character, of its own kind, unless it is
the first of two stars. -/
theorem symbol (scanned : ScannedFrom source first rest token) {c : Char} {own : Kind}
    (starts : source.firstChar? = some c) (listed : (c, own) ∈ symbols)
    (noPower : ¬ ofString "**" <+: source) : token.kind = own ∧ token.lexeme = ofChar c := by
  obtain ⟨noDigit, noLetter⟩ := symbol_other listed
  obtain ⟨kind, spelled⟩ := scanned.single starts noDigit noLetter noPower
  rw [ofSymbol?_of_listed listed] at kind
  exact ⟨kind, spelled⟩

/-- In front of any other character the token is illegal, and it is that character alone. -/
theorem other (scanned : ScannedFrom source first rest token) {c : Char}
    (starts : source.firstChar? = some c) (noDigit : c.isDigit = false)
    (noLetter : isLetter c = false) (unlisted : ∀ own, (c, own) ∉ symbols) :
    token.kind = .illegal ∧ token.lexeme = ofChar c := by
  have noPower : ¬ ofString "**" <+: source := by
    intro stars
    obtain ⟨same, -⟩ := scanned.stars_iff.mp stars
    cases same.symm.trans (scanned.first_eq starts)
    exact unlisted .star (by decide)
  obtain ⟨kind, spelled⟩ := scanned.single starts noDigit noLetter noPower
  rw [ofSymbol?_of_unlisted unlisted] at kind
  exact ⟨kind, spelled⟩

/-- In front of a stray byte the token is illegal. It covers that byte alone and is spelled
U+FFFD. -/
theorem stray (scanned : ScannedFrom source first rest token)
    (starts : source.firstChar? = none) :
    token.kind = .illegal ∧ token.lexeme = ofChar Glyph.replacement ∧
      token.span.stop.offset = token.span.start.offset + 1 := by
  cases first with
  | char c =>
    rw [(firstChar?_of_reads scanned.reads c).mpr rfl] at starts
    cases starts
  | stray byte =>
    obtain ⟨kind, length⟩ := scanned.cut.stray
    refine ⟨Option.some.inj kind, scanned.lexeme_single length, ?_⟩
    rw [scanned.width, length]
    rfl

/-- A token that starts with a character covers as many bytes as it is spelled with, and the bytes
begin with its spelling. -/
theorem covers (scanned : ScannedFrom source first rest token)
    (starts : source.firstChar? ≠ none) :
    token.lexeme <+: source ∧
      token.span.stop.offset = token.span.start.offset + token.lexeme.length := by
  obtain ⟨c, found⟩ := Option.ne_none_iff_exists'.mp starts
  obtain rfl := scanned.first_eq found
  have whole := scanned.cut.whole
  rw [scanned.width, scanned.spelled, ← spelling_eq whole]
  exact ⟨spelling_begins scanned.reads whole, rfl⟩

/-- What is known to start with a glyph other than a stray byte starts with a character, because
the character that stands for stray bytes is in none of the classes. -/
theorem exists_char (scanned : ScannedFrom source first rest token) {accepts : Char → Bool}
    (accepted : accepts first.value = true) (refused : accepts Glyph.replacement = false) :
    ∃ c, source.firstChar? = some c ∧ accepts c = true := by
  cases first with
  | stray byte =>
    rw [Glyph.value, refused] at accepted
    cases accepted
  | char c => exact ⟨c, (firstChar?_of_reads scanned.reads c).mpr rfl, accepted⟩

/-- None of the glyphs of a token is white space. Each kind is checked apart: no class of
characters that a token is made of has a blank one. -/
theorem visible (scanned : ScannedFrom source first rest token) :
    ∀ glyph ∈ (first :: rest).take (extent first rest + 1), isBlankGlyph glyph = false := by
  have here : isBlankGlyph first = false := by
    have decided := scanned.decided
    unfold kindAt at decided
    by_cases white : isBlankGlyph first = true
    · simp [white] at decided
    · simpa using white
  refine List.forall_mem_cons.mpr ⟨here, ?_⟩
  intro glyph member
  by_cases white : isBlankGlyph glyph = true
  · have inner := scanned.cut.inner glyph member
    rw [isInner_of_isBlankGlyph white] at inner
    cases inner
  · simpa using white

/-- Neither the lexeme of a token nor the bytes that it covers hold white space. Every glyph that
the token covers is visible. In the lexeme a stray byte is spelled with the replacement character,
and that is visible as well. -/
theorem unspaced (scanned : ScannedFrom source first rest token) :
    Unspaced token.lexeme ∧
      Unspaced (source.take (token.span.stop.offset - token.span.start.offset).toNat) := by
  have visible := scanned.visible
  constructor
  · apply unspaced_of_glyphs
    have read := glyphs_ofChars_append ((first :: rest.take (extent first rest)).map Glyph.value) []
    rw [List.append_nil, Text.glyphs, List.append_nil] at read
    rw [scanned.spelled, spelling, read]
    intro glyph member
    simp only [List.mem_map] at member
    obtain ⟨c, ⟨inner, among, rfl⟩, rfl⟩ := member
    exact visible inner among
  · apply unspaced_of_glyphs
    have split : source.glyphs = (first :: rest).take (extent first rest + 1) ++
        (first :: rest).drop (extent first rest + 1) := by
      rw [scanned.reads, List.take_append_drop]
    have covered : source.take (token.span.stop.offset - token.span.start.offset).toNat =
        ofGlyphs ((first :: rest).take (extent first rest + 1)) := by
      have wide : (token.span.stop.offset - token.span.start.offset).toNat =
          (ofGlyphs ((first :: rest).take (extent first rest + 1))).length := by
        rw [scanned.width]
        omega
      rw [wide, congrArg (List.take _) (bytes_of_reads split), List.take_left]
    rw [covered, glyphs_of_front split]
    exact visible

/-- A token that is scanned is a longest match, whatever it starts with. -/
theorem munched (scanned : ScannedFrom source first rest token) : Munched source token where
  numeral _ := scanned.numeral
  word _ := scanned.word
  power := scanned.power
  symbol _ _ := scanned.symbol
  other _ := scanned.other
  stray := scanned.stray
  covers := scanned.covers
  numbers number := scanned.exists_char (scanned.meant.starts.1 number) (by decide)
  words named := scanned.exists_char (scanned.meant.starts.2 named) (startsWord_stray 0)
  unspaced := scanned.unspaced

end ScannedFrom

/-- A token is cut off behind some glyphs. Its kind and its extent are those that the glyphs from
there on decide. -/
structure CutBehind (start : Position) (front : List Glyph) (first : Glyph) (rest : List Glyph)
    (token : Token) : Prop where
  decided : kindAt first rest = some token.kind
  spelled : token.lexeme = spelling first rest (extent first rest)
  place : token.span = ⟨start.after front,
    start.after (front ++ (first :: rest).take (extent first rest + 1))⟩

/-- Each token that is placed ends the input or is cut off behind some glyphs.

Proof: induction over the pieces. The first piece is cut off by its token if it has one,
and tokens of later pieces are cut off behind it. -/
theorem exists_cutBehind {start : Position} {glyphs : List Glyph} {token : Token}
    (member : token ∈ place start (Piece.cut glyphs)) :
    token.kind = .endOfInput ∨ ∃ front first rest, glyphs = front ++ first :: rest ∧
      CutBehind start front first rest token := by
  fun_induction Piece.cut glyphs generalizing start with
  | case1 =>
    rw [place, List.mem_singleton] at member
    exact .inl (member ▸ rfl)
  | case2 first rest behind =>
    have later (among : token ∈ place (start.after (first :: rest.take (extent first rest)))
        (Piece.cut (rest.drop (extent first rest)))) : token.kind = .endOfInput ∨
        ∃ front next others, first :: rest = front ++ next :: others ∧
          CutBehind start front next others token := by
      rcases behind among with ends | ⟨front, next, others, split, decided, spelled, place⟩
      · exact .inl ends
      refine .inr ⟨(first :: rest.take (extent first rest)) ++ front, next, others, ?_, decided,
        spelled, ?_⟩
      · rw [List.append_assoc, ← split, List.cons_append, List.take_append_drop]
      · simp only [place, Position.after_append, List.append_assoc]
    rw [place] at member
    cases decided : kindAt first rest with
    | none =>
      rw [decided] at member
      exact later member
    | some kind =>
      rw [decided] at member
      rcases List.mem_cons.mp member with rfl | among
      · exact .inr ⟨[], first, rest, rfl, decided, rfl, rfl⟩
      · exact later among

/-- A token of a text that does not end the input is scanned from the bytes at its start. What was
before it only moves its place. -/
theorem exists_scannedFrom {text : Text} {token : Token} (member : token ∈ ofText text)
    (going : token.kind ≠ .endOfInput) :
    ∃ first rest, ScannedFrom (text.drop token.span.start.offset.toNat) first rest token := by
  rcases exists_cutBehind member with ends | ⟨front, first, rest, reads, decided, spelled, place⟩
  · exact absurd ends going
  have zero : Position.start.offset = 0 := rfl
  have start : token.span.start.offset.toNat = (ofGlyphs front).length := by
    rw [place, Position.offset_after, zero, Int.zero_add, Int.toNat_natCast]
  refine ⟨first, rest, ?_, decided, spelled, ?_⟩
  · rw [start, drop_of_reads reads]
    exact glyphs_of_behind reads
  · rw [place]
    simp only [Position.offset_after, ofGlyphs_append, List.length_append]
    omega

/-- Tokens are longest matches: each token of a text that does not end the input is what the bytes
from its start say, and it takes the most of them that its kind allows. -/
theorem munched_of_mem (text : Text) (token : Token) (member : token ∈ ofText text)
    (going : token.kind ≠ .endOfInput) :
    Munched (text.drop token.span.start.offset.toNat) token := by
  obtain ⟨first, rest, scanned⟩ := exists_scannedFrom member going
  exact scanned.munched

/-- An exponent without digits is left for the next token. -/
theorem munched_of_mem_unscaled :
    ∃ (text : Text) (token : Token), text = ofString "y=1.5e+x;" ∧
      token = ⟨.number, ofString "1.5", ⟨⟨2, 1, 3⟩, ⟨5, 1, 6⟩⟩⟩ ∧ token ∈ ofText text ∧
      token.kind ≠ .endOfInput ∧ Munched (text.drop token.span.start.offset.toNat) token := by
  have member : (⟨.number, ofString "1.5", ⟨⟨2, 1, 3⟩, ⟨5, 1, 6⟩⟩⟩ : Token) ∈
      ofText (ofString "y=1.5e+x;") := by
    decide +kernel
  exact ⟨_, _, rfl, rfl, member, by decide, munched_of_mem _ _ member (by decide)⟩

end Token

end Astro
