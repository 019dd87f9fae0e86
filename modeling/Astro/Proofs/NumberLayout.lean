import Astro.Number.Layout
import Astro.Proofs.Doubles
import Astro.Proofs.ShortestDecimals

/-!
# The layout of numbers

Programs compare a number with two others to decide how it is written, and take the zeros
away that stand before an exponent. What they write is nevertheless a matter of the
shortest decimal alone (`format_layout`): the two comparisons tell its order of magnitude
(`order_iff_bits`), also for the doubles next to the bounds, because both bounds are
powers of ten to their last bit and rounding keeps the order.
-/

namespace Astro.Number

/-! ### Bounds -/

section Bounds

variable {mantissa : Nat} {exponent : Int} (canonical : Canonical mantissa exponent)
  (some : 0 < mantissa)

include canonical some

/-- The shortest decimal of a double reads back as its magnitude bits. -/
theorem nearestBits_shortest :
    nearestBits (shortest mantissa exponent).value =
      (exponent - leastExponent).toNat * 2 ^ 52 + mantissa := by
  rw [(shortest_isShortest canonical some).1.reads, canonical.nearestBits_exact]

/-- A double is not below one that is written as a power of ten exactly when its shortest
decimal is not.

Proof: a decimal below the power is rounded to no more than it. If it is rounded to the
same double, it is the decimal of the power itself. -/
theorem order_iff_bits {mantissa' : Nat} {exponent' order : Int}
    (canonical' : Canonical mantissa' exponent') (some' : 0 < mantissa')
    (power : shortest mantissa' exponent' = ⟨1, order⟩) :
    order ≤ (shortest mantissa exponent).order ↔
      (exponent' - leastExponent).toNat * 2 ^ 52 + mantissa' ≤
        (exponent - leastExponent).toNat * 2 ^ 52 + mantissa := by
  have reads := nearestBits_shortest canonical some
  have reads' := nearestBits_shortest canonical' some'
  have value' : (shortest mantissa' exponent').value = 10 ^ order := by
    rw [power, Decimal.value, Nat.cast_one, one_mul]
  have nonzero := (shortest_isShortest canonical some).2.2.1
  have positive : 0 < (shortest mantissa exponent).value := by
    unfold Decimal.value
    positivity
  have test : order ≤ (shortest mantissa exponent).order ↔
      (10 : ℚ) ^ order ≤ (shortest mantissa exponent).value := by
    rw [Decimal.order_eq nonzero, ← Int.zpow_le_iff_le_log (by decide) positive, Nat.cast_ofNat]
  constructor
  · intro reached
    rw [← reads, ← reads', value']
    exact nearestBits_mono (by positivity) (test.mp reached)
  · intro notBelow
    by_contra missed
    have below := le_of_not_ge (mt test.mpr missed)
    have rounded := nearestBits_mono (le_of_lt positive) below
    rw [← value', reads, reads'] at rounded
    obtain ⟨rfl, rfl⟩ := canonical.eq_of_bits canonical' (Nat.le_antisymm rounded notBelow)
    apply missed
    rw [power]
    simp [Decimal.order, Decimal.digits, Nat.length_toDigits_pos]

end Bounds

/-- The least number that is written positionally is the millionth, as near as a double is. -/
theorem parts_leastPositional : parts leastPositional = .finite false 4722366482869645 (-72) := by
  decide +kernel

/-- The least number that is too large for it is a power of ten. -/
theorem parts_leastScientific : parts leastScientific = .finite false 7629394531250000 17 := by
  decide +kernel

/-- Whether a number is written positionally depends on the order of its shortest decimal. -/
theorem positional_iff {value : Float} {negative : Bool} {mantissa : Nat} {exponent : Int}
    (finite : parts value = .finite negative mantissa exponent) (some : 0 < mantissa) :
    leastPositional ≤ value.abs ∧ value.abs < leastScientific ↔
      -6 ≤ (shortest mantissa exponent).order ∧ (shortest mantissa exponent).order ≤ 20 := by
  have canonical := (toBits_of_finite finite).1
  have plain := parts_abs finite
  have least := parts_leastPositional
  have most := parts_leastScientific
  have millionth : shortest 4722366482869645 (-72) = ⟨1, -6⟩ := by decide +kernel
  have power : shortest 7629394531250000 17 = ⟨1, 21⟩ := by decide +kernel
  rw [le_iff_bits least plain (by decide) some, lt_iff_bits plain most some (by decide),
    ← order_iff_bits canonical some (toBits_of_finite least).1 (by decide) millionth, ← not_le,
    ← order_iff_bits canonical some (toBits_of_finite most).1 (by decide) power]
  omega

/-! ### Exponents -/

/-- A character that may stand in a mantissa or before it. -/
def InMantissa (c : Char) : Prop := c.isDigit = true ∨ c = '.' ∨ c = '-'

/-- What may stand in a mantissa is a single byte, and it is not the mark of an exponent. -/
theorem InMantissa.narrow {c : Char} (inside : InMantissa c) : c.toNat < 0x80 ∧ c ≠ 'e' := by
  rcases inside with digit | rfl | rfl
  · have range : '0'.toNat ≤ c.toNat ∧ c.toNat ≤ '9'.toNat := by
      simpa [Char.isDigit, UInt32.le_iff_toNat_le] using digit
    refine ⟨Nat.lt_of_le_of_lt range.2 (by decide), ?_⟩
    rintro rfl
    exact absurd range.2 (by decide)
  · decide
  · decide

/-- The exponent form of a number is a mantissa, the mark, a sign and digits, whatever the
least width of an exponent. -/
theorem exists_scientific {digits : List Char} (digital : ∀ c ∈ digits, c.isDigit = true)
    (order : Int) :
    ∃ mantissa sign, (∀ c ∈ mantissa, InMantissa c) ∧ sign.toNat < 0x80 ∧
      ∀ width, Layout.scientific width digits order =
        mantissa ++ 'e' :: sign ::
          (Layout.zeros (width - (Nat.toDigits 10 order.natAbs).length) ++
            Nat.toDigits 10 order.natAbs) := by
  have inside : ∀ c ∈ digits, InMantissa c := fun c member => .inl (digital c member)
  have narrow : (if order < 0 then '-' else '+').toNat < 0x80 := by
    split <;> decide
  rcases digits with _ | ⟨first, _ | ⟨second, more⟩⟩
  · exact ⟨[], _, inside, narrow, fun width => rfl⟩
  · exact ⟨[first], _, inside, narrow, fun width => rfl⟩
  · refine ⟨first :: '.' :: second :: more, _, ?_, narrow, fun width => rfl⟩
    obtain ⟨here, later⟩ := List.forall_mem_cons.mp inside
    exact List.forall_mem_cons.mpr ⟨here, List.forall_mem_cons.mpr ⟨.inr (.inl rfl), later⟩⟩

/-- Zeros before the digits of a number are dropped, and one is left of those alone. The first
digit of a number that is not zero is no zero, so that nothing but the zeros before it is dropped.
-/
theorem trimmed_toDigits (count n : Nat) :
    (let digits := (Layout.zeros count ++ Nat.toDigits 10 n).dropWhile (· = '0')
      if digits = [] then ['0'] else digits) = Nat.toDigits 10 n := by
  have zeros : ∀ c ∈ Layout.zeros count, decide (c = '0') = true := by
    intro c member
    exact decide_eq_true (List.eq_of_mem_replicate member)
  rw [List.dropWhile_append_of_pos zeros]
  rcases Nat.eq_zero_or_pos n with rfl | positive
  · decide
  · have other := head_toDigits positive
    cases digits : Nat.toDigits 10 n with
    | nil => exact absurd digits (List.ne_nil_of_length_pos Nat.length_toDigits_pos)
    | cons first rest =>
      rw [digits] at other
      have kept : decide (first = '0') = false := by simpa using other
      simp [kept]

/-- Trimming the exponent form with two digits gives the one with as few as possible. The mark is
the first `e` of the text, since neither the sign nor the mantissa has one, and the digits behind
it lose the zeros that filled them up. -/
theorem trimExponent_scientific {front digits : List Char} (signed : ∀ c ∈ front, InMantissa c)
    (digital : ∀ c ∈ digits, c.isDigit = true) (order : Int) :
    trimExponent (front ++ Layout.scientific 2 digits order) =
      front ++ Layout.scientific 1 digits order := by
  obtain ⟨mantissa, sign, inside, -, form⟩ := exists_scientific digital order
  have unmarked : ∀ c ∈ front ++ mantissa, decide (c ≠ 'e') = true := by
    intro c member
    have allowed := List.forall_mem_append.mpr ⟨signed, inside⟩ c member
    exact decide_eq_true allowed.narrow.2
  have enough : 1 - (Nat.toDigits 10 order.natAbs).length = 0 :=
    Nat.sub_eq_zero_of_le Nat.length_toDigits_pos
  have trimmed := trimmed_toDigits (2 - (Nat.toDigits 10 order.natAbs).length) order.natAbs
  rw [form, form, ← List.append_assoc, ← List.append_assoc, enough]
  unfold trimExponent
  rw [List.takeWhile_append_of_pos unmarked, List.dropWhile_append_of_pos unmarked]
  simp only [ne_eq, not_true_eq_false, decide_false, List.takeWhile_cons, List.dropWhile_cons,
    Bool.false_eq_true, ↓reduceIte, List.drop_succ_cons, List.drop_zero, List.take_succ_cons,
    List.take_zero, List.append_nil] at trimmed ⊢
  rw [trimmed]
  simp [Layout.zeros]

/-! ### Layout -/

/-- A number is written as the digits of its shortest decimal, behind its sign. -/
theorem format_of_finite {value : Float} {negative : Bool} {mantissa : Nat} {exponent : Int}
    (finite : parts value = .finite negative mantissa exponent) (some : 0 < mantissa) :
    format value = Text.ofChars ((if negative then ['-'] else []) ++
      if -6 ≤ (shortest mantissa exponent).order ∧ (shortest mantissa exponent).order ≤ 20 then
        Layout.positional (shortest mantissa exponent).digits (shortest mantissa exponent).order
      else Layout.scientific 1 (shortest mantissa exponent).digits
        (shortest mantissa exponent).order) := by
  have signed : ∀ c ∈ (if negative then ['-'] else []), InMantissa c := by
    cases negative <;> simp [InMantissa]
  have digital : ∀ c ∈ (shortest mantissa exponent).digits, c.isDigit = true := fun _ =>
    (shortest mantissa exponent).isDigit_of_mem_digits
  unfold format
  rw [finite]
  dsimp only
  rw [if_neg (Nat.ne_of_gt some)]
  simp only [positional_iff finite some, trimExponent_scientific signed digital]
  split <;> rfl

/-- Digits that end before the point are followed by zeros. -/
theorem positional_whole {digits : List Char} {order : Int} (notNegative : 0 ≤ order)
    (few : digits.length ≤ order + 1) :
    Layout.positional digits order =
      digits ++ List.replicate (order + 1 - digits.length).toNat '0' := by
  have count : order.toNat + 1 - digits.length = (order + 1 - digits.length).toNat := by omega
  unfold Layout.positional
  rw [if_neg (by omega)]
  dsimp only
  rw [if_pos (by omega), count]
  rfl

/-- Digits that reach behind the point are cut there. As many stand before the point as the order
asks for. -/
theorem positional_cut {digits : List Char} {order : Int} (notNegative : 0 ≤ order)
    (many : order + 1 < digits.length) :
    Layout.positional digits order =
      digits.take (order + 1).toNat ++ '.' :: digits.drop (order + 1).toNat := by
  have count : order.toNat + 1 = (order + 1).toNat := by omega
  unfold Layout.positional
  rw [if_neg (by omega)]
  dsimp only
  rw [if_neg (by omega), count]

/-- An exponent with at least one digit has no zeros before it. -/
theorem scientific_one (first : Char) (rest : List Char) (order : Int) :
    Layout.scientific 1 (first :: rest) order =
      first :: (if rest = [] then [] else '.' :: rest) ++
        'e' :: (if order < 0 then '-' else '+') :: Nat.toDigits 10 order.natAbs := by
  have enough : 1 - (Nat.toDigits 10 order.natAbs).length = 0 :=
    Nat.sub_eq_zero_of_le Nat.length_toDigits_pos
  unfold Layout.scientific Layout.exponentPart
  dsimp only
  rw [enough]
  cases rest <;> rfl

/-- How a finite number that is not zero is written. Its shortest decimal reads back as it,
none with fewer digits does, and none with as many that does lies nearer; it neither starts
nor ends with a zero. Where its first digit counts ones or a power of ten up to the
twentieth, the digits are written with as many zeros as are missing, or with a point among
them. Down to the millionths they stand behind a zero, a point and zeros. Otherwise there is
a point behind the first digit, if there are more, and an exponent without zeros before it. -/
theorem format_layout {value : Float} {negative : Bool} {mantissa : Nat} {exponent : Int}
    (finite : parts value = .finite negative mantissa exponent) (nonzero : mantissa ≠ 0) :
    ∃ (decimal : Decimal) (first : Char) (rest : List Char),
      decimal = shortest mantissa exponent ∧
      decimal.digits = first :: rest ∧ first ≠ '0' ∧ (first :: rest).getLast? ≠ some '0' ∧
      ofMagnitude negative decimal.magnitude = value ∧
      (∀ other : Decimal, ofMagnitude negative other.magnitude = value →
        decimal.digits.length ≤ other.digits.length ∧
        (other.digits.length = decimal.digits.length →
          |decimal.value - mantissa * 2 ^ exponent| ≤ |other.value - mantissa * 2 ^ exponent|)) ∧
      (rest.length ≤ decimal.order → decimal.order ≤ 20 →
        format value = Text.ofChars ((if negative then ['-'] else []) ++ first :: rest ++
          List.replicate (decimal.order - rest.length).toNat '0')) ∧
      (0 ≤ decimal.order → decimal.order < rest.length →
        format value = Text.ofChars ((if negative then ['-'] else []) ++
          (first :: rest).take (decimal.order + 1).toNat ++
          '.' :: (first :: rest).drop (decimal.order + 1).toNat)) ∧
      (-6 ≤ decimal.order → decimal.order < 0 →
        format value = Text.ofChars ((if negative then ['-'] else []) ++
          '0' :: '.' :: List.replicate (-decimal.order - 1).toNat '0' ++ first :: rest)) ∧
      (decimal.order < -6 ∨ 21 ≤ decimal.order →
        format value = Text.ofChars ((if negative then ['-'] else []) ++
          first :: (if rest = [] then [] else '.' :: rest) ++
          'e' :: (if decimal.order < 0 then '-' else '+') ::
            Nat.toDigits 10 decimal.order.natAbs)) := by
  have positive : 0 < mantissa := Nat.pos_of_ne_zero nonzero
  have canonical := (toBits_of_finite finite).1
  have written := format_of_finite finite positive
  obtain ⟨⟨reads, least, nearest⟩, few, some, indivisible⟩ :=
    shortest_isShortest canonical positive
  have front := head_toDigits some
  have back := getLast_toDigits indivisible
  have readsAs (other : Decimal) : ofMagnitude negative other.magnitude = value ↔
      nearestBits other.value = nearestBits (mantissa * 2 ^ exponent) := by
    rw [other.magnitude_eq, ofMagnitude_eq_iff finite (nearestBits_le _),
      canonical.nearestBits_exact]
  change (shortest mantissa exponent).digits.head? ≠ _ at front
  change (shortest mantissa exponent).digits.getLast? ≠ _ at back
  generalize shortest mantissa exponent = decimal at *
  generalize (if negative then ['-'] else []) = sign at written ⊢
  cases digits : decimal.digits with
  | nil => exact absurd digits decimal.digits_ne_nil
  | cons first rest =>
    rw [digits] at front back few written
    refine ⟨decimal, first, rest, rfl, digits, by simpa using front, back, (readsAs decimal).mpr reads,
      ?_, ?_, ?_, ?_, ?_⟩
    · intro other same
      have reads' := (readsAs other).mp same
      exact ⟨least other reads', fun short => nearest other reads' (le_of_eq short)⟩
    · intro long most
      have zeros : decimal.order + 1 - (first :: rest).length = decimal.order - rest.length := by
        simp
      rw [written, if_pos (by omega), positional_whole (by omega) (by simp; omega), zeros,
        List.append_assoc]
    · intro notNegative short
      rw [written, if_pos ⟨by omega, by simp at few; omega⟩,
        positional_cut notNegative (by simp; omega), List.append_assoc]
    · intro least' negative'
      rw [written, if_pos (by omega), Layout.positional, if_pos negative', List.append_assoc]
      rfl
    · intro far
      rw [written, if_neg (by omega), scientific_one, List.append_assoc]

/-- A number next to nothing is written with an exponent of one digit. -/
theorem format_layout_small :
    parts (-1.5e-7) = .finite true 5666839779443574 (-75) ∧
      format (-1.5e-7) = Text.ofString "-1.5e-7" := by
  have finite : parts (-1.5e-7) = .finite true 5666839779443574 (-75) := by decide +kernel
  have found : shortest 5666839779443574 (-75) = ⟨15, -8⟩ := by decide +kernel
  obtain ⟨decimal, first, rest, rfl, digits, -, -, -, -, -, -, -, far⟩ :=
    format_layout finite (by decide)
  rw [found] at digits far
  obtain ⟨rfl, rfl⟩ := List.cons.inj digits
  refine ⟨finite, (far (by decide)).trans ?_⟩
  decide

end Astro.Number
