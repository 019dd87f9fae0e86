import Astro.Number.Numeral
import Astro.Proofs.LongestMatch
import Astro.Proofs.NumberLayout

/-!
# Reading back what was written

The text of a number is a numeral: digits, perhaps a point and digits, and perhaps an
exponent. Numerals are read part by part (`readDecimal?_chars`), and the leading digits
settle the value of every numeral that is written, because what follows them are zeros.
So every number is read back from its text (`ofNumeral?_format`), to its last bit and
with its sign.
-/

namespace Astro

namespace Number

/-! ### Digits -/

/-- Digits behind others count on from them.

Proof: induction on the digits, each of which moves what was read by one place. -/
theorem foldl_digits (base : Nat) (digits : List Char) (before : Nat) :
    digits.foldl (fun value digit => value * base + digitValue digit) before =
      before * base ^ digits.length + ofDigits base digits := by
  induction digits generalizing before with
  | nil => simp [ofDigits]
  | cons first rest behind =>
    rw [ofDigits, List.foldl_cons, List.foldl_cons, behind, behind, List.length_cons, pow_succ]
    ring

/-- Digits with others behind them denote what they denote alone, times the base once for each of
the others, and what these denote. -/
theorem ofDigits_append (base : Nat) (digits more : List Char) :
    ofDigits base (digits ++ more) =
      ofDigits base digits * base ^ more.length + ofDigits base more := by
  rw [ofDigits, List.foldl_append, foldl_digits]
  rfl

/-- Zeros denote nothing. However many there are, none of them counts. -/
theorem ofDigits_zeros (base count : Nat) : ofDigits base (Layout.zeros count) = 0 := by
  induction count with
  | zero => rfl
  | succ count fewer =>
    have split : Layout.zeros (count + 1) = ['0'] ++ Layout.zeros count := rfl
    rw [split, ofDigits_append, fewer]
    simp [ofDigits, digitValue]

/-- The digits of a number denote it. Reading decimal digits is the inverse of writing them. -/
theorem ofDigits_toDigits (n : Nat) : ofDigits 10 (Nat.toDigits 10 n) = n := by
  have digit : ∀ last < 10, ofDigits 10 [Nat.digitChar last] = last := by decide
  induction n using Nat.strongRecOn with
  | ind n fewer =>
    rw [Nat.toDigits_eq_if (by decide)]
    split
    · next small => exact digit n small
    · next large =>
      rw [ofDigits_append, fewer (n / 10) (by omega), digit (n % 10) (Nat.mod_lt n (by decide)),
        List.length_singleton, pow_one]
      omega

/-- Where no digit is another one than zero, all are zeros. -/
theorem eq_zeros_of_not_isPositive {digits : List Char} (none : isPositive digits = false) :
    digits = Layout.zeros digits.length := by
  apply List.eq_replicate_of_mem
  intro c member
  simpa using List.any_eq_false.mp none c member

/-- Zeros before other digits do not count. The reader takes them off before it counts the digits.
-/
theorem ofDigits_dropWhile (base : Nat) (digits : List Char) :
    ofDigits base (digits.dropWhile (· = '0')) = ofDigits base digits := by
  have zeros : digits.takeWhile (· = '0') = Layout.zeros (digits.takeWhile (· = '0')).length := by
    apply List.eq_replicate_of_mem
    intro c member
    simpa using List.mem_takeWhile_imp member
  have whole := ofDigits_append base (digits.takeWhile (· = '0')) (digits.dropWhile (· = '0'))
  rw [List.takeWhile_append_dropWhile, zeros, ofDigits_zeros, zero_mul, zero_add] at whole
  exact whole.symm

/-- Leading digits that are followed by zeros alone settle the number, unless they settle
none: the double is the one nearest to all the digits. -/
theorem leadingMagnitude?_eq {digits : List Char} (point : Int)
    (none : isPositive (digits.drop leadingCount) = false) {magnitude : Nat}
    (settles : leadingMagnitude? digits point = some magnitude) :
    magnitude = decimalMagnitude (ofDigits 10 digits) (point - digits.length) := by
  have zeros := eq_zeros_of_not_isPositive none
  have whole := ofDigits_append 10 (digits.take leadingCount) (digits.drop leadingCount)
  have lengths : digits.length =
      (digits.take leadingCount).length + (digits.drop leadingCount).length := by
    rw [← List.length_append, List.take_append_drop]
  rw [List.take_append_drop, zeros, ofDigits_zeros, add_zero, ← zeros] at whole
  unfold leadingMagnitude? at settles
  obtain ⟨-, settles⟩ := Option.ite_none_right_eq_some.mp settles
  rw [← Option.some.inj settles]
  generalize digits.take leadingCount = leading at *
  generalize digits.drop leadingCount = rest at *
  have same : Decimal.value ⟨ofDigits 10 leading, point - leading.length⟩ =
      Decimal.value ⟨ofDigits 10 digits, point - digits.length⟩ := by
    have split : point - (leading.length : Int) = rest.length + (point - digits.length) := by
      rw [lengths]
      push_cast
      ring
    rw [Decimal.value, Decimal.value, whole, split, zpow_add₀ (by norm_num), zpow_natCast]
    push_cast
    ring
  exact Decimal.magnitude_congr same

/-- Digits that are all told apart denote the double nearest to them. -/
theorem distinctMagnitude_eq {digits : List Char} (point : Int)
    (few : digits.length ≤ distinctCount) :
    distinctMagnitude digits point =
      decimalMagnitude (ofDigits 10 digits) (point - digits.length) := by
  have behind : digits.drop distinctCount = [] := List.drop_eq_nil_of_le few
  rw [distinctMagnitude, behind, List.take_of_length_le few]
  rfl

/-- Digits that are all told apart, with zeros alone behind the leading ones, denote the double
nearest to them whether the leading ones settle it or not. -/
theorem settledMagnitude_eq {digits : List Char} (point : Int)
    (none : isPositive (digits.drop leadingCount) = false)
    (few : digits.length ≤ distinctCount) :
    (leadingMagnitude? digits point).getD (distinctMagnitude digits point) =
      decimalMagnitude (ofDigits 10 digits) (point - digits.length) := by
  cases settles : leadingMagnitude? digits point with
  | none => exact distinctMagnitude_eq point few
  | some magnitude => exact leadingMagnitude?_eq point none settles

/-- As long as an exponent is less than ten thousand, all its digits count. -/
theorem ofExponentDigits_eq {digits : List Char} (small : ofDigits 10 digits < 10000) :
    ofExponentDigits digits = ofDigits 10 digits := by
  induction digits using List.reverseRecOn with
  | nil => rfl
  | append_singleton front last before =>
    rw [ofDigits_append, List.length_singleton, pow_one] at small ⊢
    have counted := before (by omega)
    have single : ofDigits 10 [last] = digitValue last := by simp [ofDigits]
    rw [ofExponentDigits] at counted ⊢
    rw [List.foldl_append, counted, List.foldl_cons, List.foldl_nil, if_pos (by omega), single]

/-- Digits have no case. Lowering a word therefore leaves its digits as they are. -/
theorem toLower_of_isDigit {c : Char} (digit : c.isDigit = true) : c.toLower = c := by
  have range : '0'.toNat ≤ c.toNat ∧ c.toNat ≤ '9'.toNat := by
    simpa [Char.isDigit, UInt32.le_iff_toNat_le] using digit
  unfold Char.toLower
  rw [dif_neg]
  rintro ⟨above, -⟩
  have upper : 'A'.toNat ≤ c.toNat := UInt32.le_iff_toNat_le.mp above
  have codes : '9'.toNat < 'A'.toNat := by decide
  omega

/-- Digits are taken up to where they end. They may be followed by anything that is not a digit,
or by nothing. -/
theorem span_digits {digits rest : List Char} (digital : ∀ c ∈ digits, c.isDigit = true)
    (ends : ∀ c ∈ rest.head?, c.isDigit = false) :
    (digits ++ rest).takeWhile (isDigitOf false) = digits ∧
      (digits ++ rest).dropWhile (isDigitOf false) = rest := by
  have plain : ∀ c, isDigitOf false c = c.isDigit := by
    intro c
    simp [isDigitOf]
  have accepted : ∀ c ∈ digits, isDigitOf false c = true := by
    intro c member
    rw [plain, digital c member]
  rw [List.takeWhile_append_of_pos accepted, List.dropWhile_append_of_pos accepted]
  cases rest with
  | nil => simp
  | cons first others =>
    have refused : isDigitOf false first = false := by
      rw [plain]
      exact ends first rfl
    simp [refused]

/-- Without underscores there is nothing to leave out.

Proof: the test whether every underscore separates digits meets no underscore, by induction on the
word, and the filter that leaves them out keeps every character. -/
theorem withoutSeparators?_of_plain {hexadecimal : Bool} {word : List Char} (plain : '_' ∉ word) :
    withoutSeparators? hexadecimal word = some word := by
  have separated (word : List Char) (plain : '_' ∉ word) (after : Bool) :
      separatesDigits hexadecimal after word = true := by
    induction word generalizing after with
    | nil => rfl
    | cons first rest others =>
      obtain ⟨different, later⟩ := List.ne_and_not_mem_of_not_mem_cons plain
      unfold separatesDigits
      split
      · rfl
      · next same => exact absurd (List.cons.inj same).1.symm different
      · next same =>
        obtain ⟨rfl, rfl⟩ := List.cons.inj same
        exact others later _
  have kept : word.filter (· ≠ '_') = word := by
    apply List.filter_eq_self.mpr
    intro c member
    apply decide_eq_true
    rintro rfl
    exact plain member
  rw [withoutSeparators?, if_pos (separated word plain hexadecimal), kept]

/-- Digits, and more of them behind a point, are taken up to where they end. Where there is no
fraction, what follows the digits is no point, so that the fraction read is empty as well. -/
theorem readMantissa_digits {whole fraction rest : List Char}
    (wholeDigits : ∀ c ∈ whole, c.isDigit = true)
    (fractionDigits : ∀ c ∈ fraction, c.isDigit = true)
    (behind : ∀ c ∈ rest.head?, c.isDigit = false ∧ c ≠ '.') :
    readMantissa false (whole ++ ((if fraction = [] then [] else '.' :: fraction) ++ rest)) =
      (whole, fraction, rest) := by
  unfold readMantissa
  by_cases plain : fraction = []
  · rw [if_pos plain, List.nil_append]
    obtain ⟨taken, left⟩ := span_digits wholeDigits fun c first => (behind c first).1
    rw [taken, left, plain]
    split
    · exact absurd rfl (behind '.' rfl).2
    · rfl
  · rw [if_neg plain]
    obtain ⟨taken, left⟩ := @span_digits whole ('.' :: fraction ++ rest) wholeDigits (by simp)
    obtain ⟨taken', left'⟩ := span_digits fractionDigits fun c first => (behind c first).1
    rw [taken, left]
    simp only [List.cons_append, taken', left']

/-- A word that starts with a digit has no sign. -/
theorem readSign_of_digit {first : Char} (digit : first.isDigit = true) (rest : List Char) :
    readSign (first :: rest) = (false, first :: rest) := by
  unfold readSign
  split
  · next same =>
    obtain ⟨rfl, -⟩ := List.cons.inj same
    cases digit
  · next same =>
    obtain ⟨rfl, -⟩ := List.cons.inj same
    cases digit
  · rfl

/-- All names of numbers have one letter in common. A word without an `n` is therefore none of
them, with a sign or without, and in whatever case it is written. -/
theorem readNamed?_of_lacks {word : List Char} (lacks : 'n' ∉ word.map Char.toLower) :
    readNamed? word = none := by
  have suffix (word : List Char) : (readSign word).2 <:+ word := by
    unfold readSign
    split
    · exact List.suffix_cons _ _
    · exact List.suffix_cons _ _
    · exact List.suffix_refl _
  unfold readNamed?
  generalize word.map Char.toLower = word at lacks
  have behind : 'n' ∉ (readSign word).2 := fun member => lacks ((suffix word).subset member)
  dsimp only
  rw [if_neg, if_neg]
  · rintro (same | same)
    · exact behind (same ▸ by decide)
    · exact behind (same ▸ by decide)
  · intro same
    exact lacks (same ▸ by decide)

/-- A word that is no name of a number and has no mark of another base is read as a decimal
numeral behind its sign. -/
theorem ofNumeral?_of_decimal {word unsigned : List Char} {negative : Bool}
    (unnamed : readNamed? word = none) (signed : readSign word = (negative, unsigned))
    (decimal : 'x' ∉ unsigned ∧ 'X' ∉ unsigned) :
    ofNumeral? (Text.ofChars word) = readDecimal? negative unsigned := by
  unfold ofNumeral?
  simp only [Text.chars_ofChars, unnamed, signed]
  split
  · simp at decimal
  · simp at decimal
  · rfl

/-- There are as many zeros as were asked for. This is how far they move the point. -/
theorem Layout.length_zeros (count : Nat) : (Layout.zeros count).length = count :=
  List.length_replicate

/-- Zeros are digits, so that they may be put before digits and behind them. -/
theorem Layout.isDigit_of_mem_zeros {count : Nat} {c : Char} (member : c ∈ Layout.zeros count) :
    c.isDigit = true := by
  rw [List.eq_of_mem_replicate member]
  decide

/-! ### Numerals -/

/-- A numeral by its parts: digits before a point, digits behind it, and an exponent that
is not too long to be read. -/
structure Numeral where
  whole : List Char
  fraction : List Char
  exponent : Option Int
  nonempty : whole ≠ []
  wholeDigits : ∀ c ∈ whole, c.isDigit = true
  fractionDigits : ∀ c ∈ fraction, c.isDigit = true
  small : ∀ order ∈ exponent, order.natAbs < 10000

namespace Numeral

/-- The point and the digits behind it, if there are any. -/
def fractionChars (numeral : Numeral) : List Char :=
  if numeral.fraction = [] then [] else '.' :: numeral.fraction

/-- The exponent with its mark and its sign, if there is one. -/
def exponentChars (numeral : Numeral) : List Char :=
  match numeral.exponent with
  | none => []
  | some order => 'e' :: (if order < 0 then '-' else '+') :: Nat.toDigits 10 order.natAbs

/-- A numeral as it is written. A point stands before a fraction, and the mark and the sign before
an exponent. -/
def chars (numeral : Numeral) : List Char :=
  numeral.whole ++ (numeral.fractionChars ++ numeral.exponentChars)

/-- The number that a numeral denotes. Its digits make up a whole number, and the places behind
the point are taken off its exponent. -/
def decimal (numeral : Numeral) : Decimal :=
  ⟨ofDigits 10 (numeral.whole ++ numeral.fraction),
    numeral.exponent.getD 0 - numeral.fraction.length⟩

/-- All but the leading digits of a numeral are zeros, and there are not too many to be told
apart. -/
structure Settled (numeral : Numeral) : Prop where
  leading : isPositive
    (((numeral.whole ++ numeral.fraction).dropWhile (· = '0')).drop leadingCount) = false
  distinct : ((numeral.whole ++ numeral.fraction).dropWhile (· = '0')).length ≤ distinctCount

variable (numeral : Numeral)

/-- What stands behind the mark of an exponent is its sign and its digits. -/
theorem exponentChars_cases :
    numeral.exponent = none ∧ numeral.exponentChars = [] ∨
      ∃ order, numeral.exponent = some order ∧ order.natAbs < 10000 ∧
        numeral.exponentChars =
          'e' :: (if order < 0 then '-' else '+') :: Nat.toDigits 10 order.natAbs := by
  unfold exponentChars
  cases written : numeral.exponent with
  | none => exact .inl ⟨rfl, rfl⟩
  | some order => exact .inr ⟨order, rfl, numeral.small order written, rfl⟩

/-- The characters of numerals. They are digits in its whole part, its fraction and its exponent,
and else the point, the mark of an exponent and a sign. The exponent is always written with its
sign. -/
theorem mem_chars {c : Char} (member : c ∈ numeral.chars) :
    c.isDigit = true ∨ c ∈ ['.', 'e', '+', '-'] := by
  rcases List.mem_append.mp member with inWhole | rest
  · exact .inl (numeral.wholeDigits c inWhole)
  rcases List.mem_append.mp rest with inFraction | inExponent
  · unfold fractionChars at inFraction
    split at inFraction
    · cases inFraction
    · rcases List.mem_cons.mp inFraction with rfl | digit
      · simp
      · exact .inl (numeral.fractionDigits c digit)
  · rcases numeral.exponentChars_cases with ⟨-, nothing⟩ | ⟨order, -, -, written⟩
    · rw [nothing] at inExponent
      cases inExponent
    · rw [written] at inExponent
      rcases List.mem_cons.mp inExponent with rfl | inExponent
      · simp
      rcases List.mem_cons.mp inExponent with rfl | digit
      · split <;> simp
      · exact .inl (Nat.isDigit_of_mem_toDigits (by decide) (by decide) digit)

/-- A numeral has no underscores to leave out. It has digits, a point, a mark and signs. -/
theorem withoutSeparators?_chars : withoutSeparators? false numeral.chars = some numeral.chars := by
  apply withoutSeparators?_of_plain
  intro member
  rcases numeral.mem_chars member with digit | mark
  · simp at digit
  · simp at mark

/-- A numeral is read as its parts. They are its whole digits, its fraction and what is written of
its exponent. -/
theorem readMantissa_chars :
    readMantissa false numeral.chars =
      (numeral.whole, numeral.fraction, numeral.exponentChars) := by
  refine readMantissa_digits numeral.wholeDigits numeral.fractionDigits ?_
  intro c first
  rcases numeral.exponentChars_cases with ⟨-, nothing⟩ | ⟨order, -, -, written⟩
  · rw [nothing] at first
    cases first
  · rw [written] at first
    obtain rfl := Option.some.inj first
    decide

/-- An exponent that is written is read to its end. The exponents of numerals have at most four
digits, so that the reader takes all of them. Where no exponent is written, the order is
zero. -/
theorem readExponent?_chars :
    numeral.exponentChars = [] ∧ numeral.exponent.getD 0 = 0 ∨
      numeral.exponentChars ≠ [] ∧
        readExponent? 'e' numeral.exponentChars = some (numeral.exponent.getD 0) := by
  rcases numeral.exponentChars_cases with ⟨none, nothing⟩ | ⟨order, given, few, written⟩
  · left
    rw [none, nothing]
    exact ⟨rfl, rfl⟩
  · right
    have digits : Nat.toDigits 10 order.natAbs ≠ [] :=
      List.ne_nil_of_length_pos Nat.length_toDigits_pos
    have digital : (Nat.toDigits 10 order.natAbs).all Char.isDigit = true := by
      apply List.all_eq_true.mpr
      intro c member
      exact Nat.isDigit_of_mem_toDigits (by decide) (by decide) member
    have size : ofExponentDigits (Nat.toDigits 10 order.natAbs) = order.natAbs := by
      have counted := ofDigits_toDigits order.natAbs
      rw [ofExponentDigits_eq (by omega), counted]
    have mark : Char.toLower 'e' = 'e' := by decide
    have signed : readSign ((if order < 0 then '-' else '+') :: Nat.toDigits 10 order.natAbs) =
        (decide (order < 0), Nat.toDigits 10 order.natAbs) := by
      split
      · next below => rw [decide_eq_true below, readSign]
      · next above => rw [decide_eq_false above, readSign]
    rw [written, given]
    refine ⟨List.cons_ne_nil _ _, ?_⟩
    rw [readExponent?, signed]
    simp only [mark, digital, ne_eq, digits, not_false_eq_true, and_self, ↓reduceIte, size,
      decide_eq_true_eq, Option.getD_some, Option.some_inj]
    split <;> omega

/-- A numeral that its leading digits settle is read as the double nearest to it.

Proof: none of its characters is an underscore, so that the word is read as it stands. Its
mantissa and its exponent are read back as they were put together, and the leading digits settle
the magnitude. -/
theorem readDecimal?_chars (settled : numeral.Settled) (negative : Bool) :
    readDecimal? negative numeral.chars =
      some (ofMagnitude negative numeral.decimal.magnitude) := by
  have some : ¬ (numeral.whole = [] ∧ numeral.fraction = []) := fun nothing =>
    numeral.nonempty nothing.1
  have point (digits order : Int) :
      digits - numeral.fraction.length + order - digits = order - numeral.fraction.length := by
    ring
  have among {digits : Nat} (few : digits ≤ distinctCount) :
      min ((digits : Int) - numeral.fraction.length) distinctCount =
        digits - numeral.fraction.length := by
    omega
  unfold readDecimal?
  rw [numeral.withoutSeparators?_chars]
  simp only [Option.bind_eq_bind, Option.bind_some, numeral.readMantissa_chars, some, ↓reduceIte,
    among settled.distinct, settledMagnitude_eq _ settled.leading settled.distinct,
    ofDigits_dropWhile, point]
  rcases numeral.readExponent?_chars with ⟨nothing, zero⟩ | ⟨written, read⟩
  · rw [if_pos nothing, ← zero]
    rfl
  · rw [if_neg written, read]
    rfl

/-- A numeral starts with a digit. It is the first of its whole digits, which are never left out. -/
theorem exists_first : ∃ first rest, numeral.chars = first :: rest ∧ first.isDigit = true := by
  obtain ⟨first, others, split⟩ := List.exists_cons_of_ne_nil numeral.nonempty
  refine ⟨first, others ++ (numeral.fractionChars ++ numeral.exponentChars), ?_, ?_⟩
  · rw [chars, split, List.cons_append]
  · apply numeral.wholeDigits
    rw [split]
    exact List.mem_cons_self

/-- A sign before a numeral is told apart from it. -/
theorem readSign_chars (negative : Bool) :
    readSign ((if negative then ['-'] else []) ++ numeral.chars) = (negative, numeral.chars) := by
  cases negative with
  | true => rfl
  | false =>
    obtain ⟨first, rest, starts, digit⟩ := numeral.exists_first
    rw [starts]
    exact readSign_of_digit digit rest

/-- A numeral is no name of a number, since all these have a letter that numerals lack. Lowering
its characters does not bring the letter in, as digits and marks are their own lower case. -/
theorem readNamed?_chars (negative : Bool) :
    readNamed? ((if negative then ['-'] else []) ++ numeral.chars) = none := by
  apply readNamed?_of_lacks
  intro member
  obtain ⟨c, inside, lowered⟩ := List.mem_map.mp member
  have allowed : c.isDigit = true ∨ c ∈ ['.', 'e', '+', '-'] := by
    rcases List.mem_append.mp inside with sign | inside
    · right
      cases negative <;> simp_all
    · exact numeral.mem_chars inside
  have kept : c.toLower = c := by
    rcases allowed with digit | mark
    · exact toLower_of_isDigit digit
    · simp only [List.mem_cons, List.not_mem_nil, or_false] at mark
      rcases mark with rfl | rfl | rfl | rfl <;> decide
  rw [kept] at lowered
  subst lowered
  simp at allowed

/-- A numeral with a sign is read as the double nearest to it, with that sign. -/
theorem ofNumeral?_chars (settled : numeral.Settled) (negative : Bool) :
    ofNumeral? (Text.ofChars ((if negative then ['-'] else []) ++ numeral.chars)) =
      some (ofMagnitude negative numeral.decimal.magnitude) := by
  have lacks {c : Char} (member : c ∈ numeral.chars) : c ≠ 'x' ∧ c ≠ 'X' := by
    constructor
    · rintro rfl
      simpa using numeral.mem_chars member
    · rintro rfl
      simpa using numeral.mem_chars member
  have decimal : 'x' ∉ numeral.chars ∧ 'X' ∉ numeral.chars :=
    ⟨fun member => (lacks member).1 rfl, fun member => (lacks member).2 rfl⟩
  rw [ofNumeral?_of_decimal (numeral.readNamed?_chars negative) (numeral.readSign_chars negative)
    decimal]
  exact numeral.readDecimal?_chars settled negative

/-- A numeral whose digits are those of a decimal, with zeros before and behind them, denotes
the decimal when its places fit, and its leading digits settle it. -/
theorem settled_of_digits {decimal : Decimal} (some : 0 < decimal.significand)
    (short : decimal.digits.length ≤ leadingCount) (before after : Nat)
    (fits : decimal.digits.length + after ≤ distinctCount)
    (written : numeral.whole ++ numeral.fraction =
      Layout.zeros before ++ (decimal.digits ++ Layout.zeros after))
    (places : numeral.exponent.getD 0 - numeral.fraction.length + after = decimal.exponent) :
    numeral.Settled ∧ numeral.decimal.magnitude = decimal.magnitude := by
  have zeros : ∀ c ∈ Layout.zeros before, decide (c = '0') = true := by
    intro c member
    exact decide_eq_true (List.eq_of_mem_replicate member)
  constructor
  · have other := head_toDigits some
    change decimal.digits.head? ≠ _ at other
    have kept : (decimal.digits ++ Layout.zeros after).dropWhile (· = '0') =
        decimal.digits ++ Layout.zeros after := by
      cases digits : decimal.digits with
      | nil => exact absurd digits decimal.digits_ne_nil
      | cons first rest =>
        rw [digits] at other
        have different : first ≠ '0' := by simpa using other
        simp [different]
    have left : (numeral.whole ++ numeral.fraction).dropWhile (· = '0') =
        decimal.digits ++ Layout.zeros after := by
      rw [written, List.dropWhile_append_of_pos zeros, kept]
    constructor
    · rw [left, List.drop_append, List.drop_eq_nil_of_le short, List.nil_append]
      apply List.any_eq_false.mpr
      intro c member
      simpa using List.eq_of_mem_replicate (List.mem_of_mem_drop member)
    · rw [left, List.length_append, Layout.length_zeros]
      exact fits
  · apply Decimal.magnitude_congr
    have digits : ofDigits 10 decimal.digits = decimal.significand := ofDigits_toDigits _
    have count : (Layout.zeros after).length = after := List.length_replicate
    have split : decimal.exponent =
        after + (numeral.exponent.getD 0 - numeral.fraction.length) := by
      omega
    rw [Numeral.decimal, Decimal.value, written, ofDigits_append, ofDigits_append, ofDigits_zeros,
      ofDigits_zeros, digits, count, zero_mul, zero_add, add_zero, Decimal.value, split,
      zpow_add₀ (by norm_num), zpow_natCast]
    push_cast
    ring

section Forms

variable {decimal : Decimal} (some : 0 < decimal.significand)
  (short : decimal.digits.length ≤ leadingCount)

include some short

/-- Digits behind a zero, a point and zeros are a numeral. This is the form of a number below one
that is written positionally. Its zeros before the first digit do not count among the leading
digits. -/
theorem exists_of_fraction (below : decimal.order < 0) : ∃ numeral : Numeral,
    numeral.chars = Layout.positional decimal.digits decimal.order ∧ numeral.Settled ∧
      numeral.decimal.magnitude = decimal.magnitude := by
  have digital := @decimal.isDigit_of_mem_digits
  let numeral : Numeral :=
    ⟨['0'], Layout.zeros (-decimal.order - 1).toNat ++ decimal.digits, none, List.cons_ne_nil _ _,
      @Layout.isDigit_of_mem_zeros 1,
      List.forall_mem_append.mpr ⟨fun _ => Layout.isDigit_of_mem_zeros, fun _ => digital⟩, by simp⟩
  have places : (numeral.fraction.length : Int) = -decimal.exponent := by
    have order : decimal.order = decimal.exponent + decimal.digits.length - 1 := rfl
    simp only [numeral, List.length_append, Layout.length_zeros]
    omega
  refine ⟨numeral, ?_, numeral.settled_of_digits some short ((-decimal.order - 1).toNat + 1) 0
    (short.trans (by decide)) ?_ ?_⟩
  · simp [numeral, chars, fractionChars, exponentChars, Layout.positional, below,
      decimal.digits_ne_nil]
  · simp [numeral, Layout.zeros, List.replicate_succ]
  · rw [places]
    simp [numeral]

/-- Digits with a point among them are a numeral. The point stands behind as many digits as the
order asks for, and there are more than those. -/
theorem exists_of_cut (above : 0 ≤ decimal.order)
    (many : decimal.order + 1 < decimal.digits.length) : ∃ numeral : Numeral,
    numeral.chars = Layout.positional decimal.digits decimal.order ∧ numeral.Settled ∧
      numeral.decimal.magnitude = decimal.magnitude := by
  have digital := @decimal.isDigit_of_mem_digits
  let numeral : Numeral :=
    ⟨decimal.digits.take (decimal.order + 1).toNat, decimal.digits.drop (decimal.order + 1).toNat,
      none, by simp [decimal.digits_ne_nil]; omega,
      fun c member => digital (List.mem_of_mem_take member),
      fun c member => digital (List.mem_of_mem_drop member), by simp⟩
  have places : (numeral.fraction.length : Int) = -decimal.exponent := by
    have order : decimal.order = decimal.exponent + decimal.digits.length - 1 := rfl
    simp only [numeral, List.length_drop]
    omega
  have behind : numeral.fraction ≠ [] := by
    have order : decimal.order = decimal.exponent + decimal.digits.length - 1 := rfl
    apply List.ne_nil_of_length_pos
    omega
  refine ⟨numeral, ?_, numeral.settled_of_digits some short 0 0 (short.trans (by decide))
    ?_ ?_⟩
  · rw [positional_cut above many, chars, fractionChars, if_neg behind]
    simp [numeral, exponentChars]
  · simp [numeral, Layout.zeros]
  · rw [places]
    simp [numeral]

/-- Digits with zeros behind them are a numeral. No point is written then. The zeros fill the
places down to the ones, and there are fewer than eight hundred of them. -/
theorem exists_of_whole (above : 0 ≤ decimal.order)
    (few : decimal.digits.length ≤ decimal.order + 1) (fits : decimal.order < distinctCount) :
    ∃ numeral : Numeral,
      numeral.chars = Layout.positional decimal.digits decimal.order ∧ numeral.Settled ∧
      numeral.decimal.magnitude = decimal.magnitude := by
  have digital := @decimal.isDigit_of_mem_digits
  let numeral : Numeral :=
    ⟨decimal.digits ++ Layout.zeros (decimal.order + 1 - decimal.digits.length).toNat, [], none,
      by simp [decimal.digits_ne_nil],
      List.forall_mem_append.mpr ⟨fun _ => digital, fun _ => Layout.isDigit_of_mem_zeros⟩, by simp,
      by simp⟩
  have places : (decimal.order + 1 - decimal.digits.length).toNat = decimal.exponent := by
    have order : decimal.order = decimal.exponent + decimal.digits.length - 1 := rfl
    omega
  refine ⟨numeral, ?_, numeral.settled_of_digits some short 0
    (decimal.order + 1 - decimal.digits.length).toNat (by omega) ?_ ?_⟩
  · rw [positional_whole above few]
    simp [numeral, chars, fractionChars, exponentChars, Layout.zeros]
  · simp [numeral, Layout.zeros]
  · rw [places]
    simp [numeral]

/-- Digits that are written positionally are a numeral. Their order decides which of the three
forms they have. -/
theorem exists_of_positional (fits : decimal.order < distinctCount) : ∃ numeral : Numeral,
    numeral.chars = Layout.positional decimal.digits decimal.order ∧ numeral.Settled ∧
      numeral.decimal.magnitude = decimal.magnitude := by
  rcases lt_or_ge decimal.order 0 with below | above
  · exact exists_of_fraction some short below
  · rcases Int.lt_or_le (decimal.order + 1) decimal.digits.length with many | few
    · exact exists_of_cut some short above many
    · exact exists_of_whole some short above few fits

/-- Digits with a point behind the first one and an exponent are a numeral. The point is left out
where there is a single digit, and the exponent is the order of the number. -/
theorem exists_of_scientific (range : decimal.order.natAbs < 10000) : ∃ numeral : Numeral,
    numeral.chars = Layout.scientific 1 decimal.digits decimal.order ∧ numeral.Settled ∧
      numeral.decimal.magnitude = decimal.magnitude := by
  have digital := @decimal.isDigit_of_mem_digits
  obtain ⟨first, rest, digits⟩ := List.exists_cons_of_ne_nil decimal.digits_ne_nil
  rw [digits] at digital
  let numeral : Numeral :=
    ⟨[first], rest, Option.some decimal.order, List.cons_ne_nil _ _,
      fun c member => digital (List.mem_cons.mpr (.inl (List.mem_singleton.mp member))),
      fun c member => digital (List.mem_cons_of_mem first member),
      fun order given => Option.some.inj given ▸ range⟩
  have places : decimal.order - rest.length = decimal.exponent := by
    have order : decimal.order = decimal.exponent + decimal.digits.length - 1 := rfl
    rw [digits, List.length_cons] at order
    omega
  refine ⟨numeral, ?_, numeral.settled_of_digits some short 0 0 (short.trans (by decide))
    ?_ ?_⟩
  · rw [digits, scientific_one]
    simp [numeral, chars, fractionChars, exponentChars]
  · simp [numeral, Layout.zeros, digits]
  · simp [numeral, places]

end Forms

end Numeral

/-! ### Numbers as they are written -/

/-- A decimal that reads as a finite double other than zero has an exponent that can be
read. -/
theorem Decimal.natAbs_order_lt {decimal : Decimal} (some : 0 < decimal.significand)
    (positive : 0 < decimal.magnitude) (finite : decimal.magnitude < infinityBits) :
    decimal.order.natAbs < 10000 := by
  have count : digitCount decimal.significand = decimal.digits.length :=
    if_neg (Nat.ne_of_gt some)
  have order : decimal.order = decimal.exponent + decimal.digits.length - 1 := rfl
  unfold Decimal.magnitude decimalMagnitude scaledMagnitude at positive finite
  split at positive
  · cases positive
  · next notSmall =>
    rw [if_neg notSmall] at finite
    split at finite
    · exact absurd finite (Nat.lt_irrefl _)
    · omega

section Written

variable {value : Float} {negative : Bool} {mantissa : Nat} {exponent : Int}
  (finite : parts value = .finite negative mantissa exponent)

include finite

/-- A finite number is written as a numeral that denotes it, behind its sign.

Proof: zero is a numeral of its own. Any other number is written with the digits of its shortest
decimal, of which there are seventeen at most, so that the leading digits of the numeral settle
its value. -/
theorem exists_numeral : ∃ numeral : Numeral,
    format value = Text.ofChars ((if negative then ['-'] else []) ++ numeral.chars) ∧
      numeral.Settled ∧
      numeral.decimal.magnitude = (exponent - leastExponent).toNat * 2 ^ 52 + mantissa := by
  have canonical := (toBits_of_finite finite).1
  rcases Nat.eq_zero_or_pos mantissa with rfl | some
  · have least : exponent = leastExponent := by
      have full := canonical.full
      omega
    refine ⟨⟨['0'], [], none, List.cons_ne_nil _ _, @Layout.isDigit_of_mem_zeros 1, by simp,
      by simp⟩, ?_, ?_, ?_⟩
    · unfold format
      rw [finite]
      rfl
    · exact ⟨rfl, by decide⟩
    · rw [least, sub_self]
      decide
  · obtain ⟨-, few, nonzero, -⟩ := shortest_isShortest canonical some
    have short : (shortest mantissa exponent).digits.length ≤ leadingCount :=
      few.trans (by decide)
    have reads : (shortest mantissa exponent).magnitude =
        (exponent - leastExponent).toNat * 2 ^ 52 + mantissa := by
      rw [Decimal.magnitude_eq, nearestBits_shortest canonical some]
    have written := format_of_finite finite some
    rw [← reads]
    by_cases plain : -6 ≤ (shortest mantissa exponent).order ∧
        (shortest mantissa exponent).order ≤ 20
    · rw [if_pos plain] at written
      have fits : (shortest mantissa exponent).order < distinctCount :=
        lt_of_le_of_lt plain.2 (by decide)
      obtain ⟨numeral, chars, settled, same⟩ := Numeral.exists_of_positional nonzero short fits
      exact ⟨numeral, by rw [written, chars], settled, same⟩
    · rw [if_neg plain] at written
      have range := Decimal.natAbs_order_lt nonzero (by omega)
        (reads ▸ canonical.lt_infinityBits)
      obtain ⟨numeral, chars, settled, same⟩ := Numeral.exists_of_scientific nonzero short range
      exact ⟨numeral, by rw [written, chars], settled, same⟩

end Written

/-- A number that is written is read back.

Proof: by the parts of the number. The infinities are read by their names, and a finite number is
written as a numeral that denotes it. -/
theorem ofNumeral?_format {value : Float} (number : value.isNaN = false) :
    ofNumeral? (format value) = some value := by
  cases kind : parts value with
  | nan =>
    rw [(isNaN_iff_parts value).mpr kind] at number
    cases number
  | infinite negative =>
    have named (negative : Bool) : readNamed? (if negative then "-Infinity" else "Infinity").toList =
        some (infinity negative) := by
      cases negative <;> rfl
    unfold format ofNumeral?
    rw [kind, eq_infinity kind]
    dsimp only
    rw [Text.ofString, Text.chars_ofChars, named]
  | finite negative mantissa exponent =>
    obtain ⟨numeral, written, settled, bits⟩ := exists_numeral kind
    rw [written, numeral.ofNumeral?_chars settled, bits, ← eq_ofMagnitude kind]

end Number

end Astro
