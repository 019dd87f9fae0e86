import Astro.Number.Decimal
import Astro.Proofs.Rounding

/-!
# Shortest decimals

The decimals of one length next to a double are tried for one length after another. Here
it is shown that this finds what it is meant to find (`shortest_isShortest`): a decimal
that reads back as the double, none with fewer digits does, and none with as many lies
nearer to it. Seventeen digits are always enough.

The argument is that rounding keeps the order. A decimal of a given length that reads
back does not lie between the two neighbours of that length, so one of the neighbours
lies between it and the double, and reads back as well.
-/

namespace Astro.Number

/-! ### Digits -/

/-- A number that is not zero reaches the place of its first digit and no further one. With as
many digits as it has, a number lies below the power of ten with as many zeros, and with one digit
less it would lie below the power before. -/
theorem digitCount_bounds {n : Nat} (some : 0 < n) :
    (10 : ℚ) ^ ((digitCount n : ℤ) - 1) ≤ n ∧ (n : ℚ) < 10 ^ (digitCount n : ℤ) := by
  have count : digitCount n = (Nat.toDigits 10 n).length := if_neg (Nat.ne_of_gt some)
  have length := @Nat.length_toDigits_pos 10 n
  rw [count]
  constructor
  · obtain ⟨fewer, more⟩ := Nat.exists_eq_add_of_lt length
    rw [Nat.zero_add] at more
    rw [more]
    push_cast
    rw [add_sub_cancel_right, zpow_natCast]
    rcases Nat.eq_zero_or_pos fewer with rfl | positive
    · exact_mod_cast some
    · have reached : ¬ n < 10 ^ fewer := by
        rw [← Nat.length_toDigits_le_iff (by decide) positive]
        omega
      exact_mod_cast Nat.le_of_not_lt reached
  · rw [zpow_natCast]
    exact_mod_cast (Nat.length_toDigits_le_iff (by decide) length).mp (le_refl _)

/-- The digits of a number that is not zero start with another one than zero.

Proof: strong induction on the number. Its first digit is that of its tenth, down to a number
below ten, which is its own digit. -/
theorem head_toDigits {n : Nat} (positive : 0 < n) : (Nat.toDigits 10 n).head? ≠ some '0' := by
  induction n using Nat.strongRecOn with
  | ind n fewer =>
    by_cases small : n < 10
    · rw [Nat.toDigits_of_lt_base small]
      clear fewer
      revert positive
      decide +revert
    · rw [Nat.toDigits_of_base_le (by decide) (Nat.le_of_not_lt small)]
      have front := fewer (n / 10) (by omega) (by omega)
      cases digits : Nat.toDigits 10 (n / 10) with
      | nil => exact absurd digits (List.ne_nil_of_length_pos Nat.length_toDigits_pos)
      | cons first rest =>
        rw [digits] at front
        exact front

/-- The digits of a number that ten does not divide end with another one than zero. -/
theorem getLast_toDigits {n : Nat} (indivisible : n % 10 ≠ 0) :
    (Nat.toDigits 10 n).getLast? ≠ some '0' := by
  have digit : (n % 10).digitChar ≠ '0' := by
    have small := Nat.mod_lt n (show 0 < 10 by decide)
    generalize n % 10 = last at indivisible small
    revert indivisible
    decide +revert
  rw [Nat.toDigits_eq_if (by decide)]
  split
  · next small =>
    rw [Nat.mod_eq_of_lt small] at digit
    simpa using digit
  · simpa using digit

/-! ### Extremes -/

/-- What has its first digit far behind the point is rounded to zero. -/
theorem nearestBits_of_small {x : ℚ} (notNegative : 0 ≤ x) (small : x ≤ 10 ^ (-330 : ℤ)) :
    nearestBits x = 0 := by
  have powers : 2 ^ 1075 ≤ 10 ^ 330 := by decide +kernel
  apply Nat.eq_zero_of_le_zero
  rw [← nearestBits_extremes.1]
  apply nearestBits_mono notNegative
  apply small.trans
  rw [zpow_neg, zpow_neg]
  apply inv_anti₀ (by positivity)
  exact_mod_cast powers

/-- What has its first digit far before the point is rounded to infinity. -/
theorem nearestBits_of_large {x : ℚ} (large : 10 ^ (310 : ℤ) ≤ x) :
    nearestBits x = infinityBits := by
  have powers : 2 ^ 1024 ≤ 10 ^ 310 := by decide +kernel
  apply Nat.le_antisymm
  · exact nearestBits_le x
  · rw [← nearestBits_extremes.2]
    apply nearestBits_mono (by positivity)
    refine le_trans ?_ large
    exact_mod_cast powers

/-! ### Decimals -/

namespace Decimal

/-- The digits of a decimal are decimal digits. They can be put before others in any layout. -/
theorem isDigit_of_mem_digits (decimal : Decimal) {c : Char} (member : c ∈ decimal.digits) :
    c.isDigit = true :=
  Nat.isDigit_of_mem_toDigits (by decide) (by decide) member

/-- A decimal has a digit, zero included. So there is always a first one to write. -/
theorem digits_ne_nil (decimal : Decimal) : decimal.digits ≠ [] :=
  List.ne_nil_of_length_pos Nat.length_toDigits_pos

/-- The number that a decimal denotes. -/
def value (decimal : Decimal) : ℚ := decimal.significand * 10 ^ decimal.exponent

variable {decimal : Decimal}

/-- A decimal is not negative, as its sign is written apart from it. -/
theorem value_nonneg (decimal : Decimal) : 0 ≤ decimal.value := by
  unfold value
  positivity

/-- A decimal that is not zero reaches the place of its first digit and no further one. -/
theorem value_bounds (some : 0 < decimal.significand) :
    (10 : ℚ) ^ (digitCount decimal.significand + decimal.exponent - 1) ≤ decimal.value ∧
      decimal.value < 10 ^ (digitCount decimal.significand + decimal.exponent) := by
  obtain ⟨low, high⟩ := digitCount_bounds some
  have ten : (10 : ℚ) ≠ 0 := by norm_num
  have power : (0 : ℚ) < 10 ^ decimal.exponent := by positivity
  rw [value, add_sub_right_comm, zpow_add₀ ten, zpow_add₀ ten]
  constructor
  · gcongr
  · gcongr

/-- The power of ten that the first digit counts is the order of magnitude. The order is counted
from the digits of the significand and the exponent, and the logarithm is where the value lies
between two powers. -/
theorem order_eq (some : 0 < decimal.significand) :
    decimal.order = Int.log 10 decimal.value := by
  have positive : 0 < decimal.value := by
    unfold value
    positivity
  have count : decimal.order = digitCount decimal.significand + decimal.exponent - 1 := by
    rw [order, digits, digitCount, if_neg (Nat.ne_of_gt some)]
    ring
  obtain ⟨low, high⟩ := value_bounds some
  rw [count]
  symm
  apply log_eq (by decide) positive
  · exact_mod_cast low
  · rw [sub_add_cancel]
    exact_mod_cast high

/-- A decimal with that many digits is less than the next power of ten. -/
theorem value_lt {length : Nat} (short : decimal.digits.length ≤ length) :
    decimal.value < 10 ^ (length + decimal.exponent) := by
  have positive : 0 < length := Nat.lt_of_lt_of_le Nat.length_toDigits_pos short
  have few : decimal.significand < 10 ^ length :=
    (Nat.length_toDigits_le_iff (by decide) positive).mp short
  have cast : (decimal.significand : ℚ) < 10 ^ (length : ℤ) := by exact_mod_cast few
  rw [value, zpow_add₀ (by norm_num)]
  gcongr

/-- A decimal reads as the double nearest to it. What has too few digits before the point
to be worked out is less than any double, and what has too many is beyond all of them. -/
theorem magnitude_eq (decimal : Decimal) : decimal.magnitude = nearestBits decimal.value := by
  unfold magnitude decimalMagnitude scaledMagnitude
  split
  · next small =>
    symm
    rcases Nat.eq_zero_or_pos decimal.significand with zero | some
    · rw [value, zero, Nat.cast_zero, zero_mul]
      rfl
    · apply nearestBits_of_small decimal.value_nonneg
      calc decimal.value ≤ 10 ^ (digitCount decimal.significand + decimal.exponent) :=
            le_of_lt (value_bounds some).2
        _ ≤ 10 ^ (-330 : ℤ) :=
            zpow_le_zpow_right₀ (by norm_num) (le_of_lt (small.resolve_left (Nat.ne_of_gt some)))
  · next notSmall =>
    obtain ⟨some, -⟩ := not_or.mp notSmall
    split
    · next large =>
      symm
      apply nearestBits_of_large
      calc (10 : ℚ) ^ (310 : ℤ) ≤ 10 ^ (digitCount decimal.significand + decimal.exponent - 1) :=
            zpow_le_zpow_right₀ (by norm_num) (by omega)
        _ ≤ decimal.value := (value_bounds (Nat.pos_of_ne_zero some)).1
    · have scaled := @scale_value 10 (by decide) decimal.significand 1 decimal.exponent
      dsimp only
      rw [magnitude_eq_nearestBits _ (scale_den_pos (by decide) one_pos _ _), scaled, value]
      simp

/-- Decimals with the same value read as the same double. -/
theorem magnitude_congr {first second : Decimal} (same : first.value = second.value) :
    first.magnitude = second.magnitude := by
  rw [first.magnitude_eq, second.magnitude_eq, same]

/-- Taking zeros away from the end of a significand keeps the number. -/
theorem stripZeros_value (significand : Nat) (exponent : Int) :
    (stripZeros significand exponent).value = significand * 10 ^ exponent := by
  fun_induction stripZeros significand exponent with
  | case1 => rfl
  | case2 significand exponent more fewer =>
    have whole : 10 * (significand / 10) = significand := by omega
    have cast : (10 : ℚ) * (significand / 10 : Nat) = significand := by exact_mod_cast whole
    rw [fewer, zpow_add_one₀ (by norm_num), ← cast]
    ring

/-- A significand that is not zero becomes no larger, and ten does not divide it then. -/
theorem stripZeros_significand {significand : Nat} (some : 0 < significand) (exponent : Int) :
    0 < (stripZeros significand exponent).significand ∧
      (stripZeros significand exponent).significand ≤ significand ∧
      (stripZeros significand exponent).significand % 10 ≠ 0 := by
  fun_induction stripZeros significand exponent with
  | case1 significand exponent done => exact ⟨some, le_refl _, done.resolve_left (Nat.ne_of_gt some)⟩
  | case2 significand exponent more fewer =>
    obtain ⟨positive, most, indivisible⟩ := fewer (by omega)
    exact ⟨positive, by omega, indivisible⟩

/-- A power of ten has one digit without its zeros, so that as many digits are enough as
there are zeros. -/
theorem stripZeros_length {significand length : Nat} (some : 0 < significand)
    (positive : 0 < length) (most : significand ≤ 10 ^ length) (exponent : Int) :
    (stripZeros significand exponent).digits.length ≤ length := by
  obtain ⟨-, fewer, indivisible⟩ := stripZeros_significand some exponent
  apply (Nat.length_toDigits_le_iff (by decide) positive).mpr
  apply lt_of_le_of_ne (fewer.trans most)
  intro power
  apply indivisible
  rw [power]
  exact Nat.mod_eq_zero_of_dvd (dvd_pow_self 10 (Nat.ne_of_gt positive))

end Decimal

/-! ### Neighbours -/

/-- The decimal order is that of the fraction.

Proof: a fraction of at least one has the order of its whole part. For a smaller one the number of
times that the numerator goes into the denominator is counted, less one unit, so that exact powers
of ten are counted as those. -/
theorem decimalOrder_eq {num den : Nat} (some : 0 < num) (some' : 0 < den) :
    decimalOrder num den = Int.log 10 ((num : ℚ) / den) := by
  have positive : (0 : ℚ) < num / den := by positivity
  have denPos : (0 : ℚ) < den := by positivity
  have reach {n : Nat} (nonzero : 0 < n) : n + 1 ≤ 10 ^ digitCount n := by
    have high := (digitCount_bounds nonzero).2
    have below : n < 10 ^ digitCount n := by exact_mod_cast high
    exact below
  symm
  unfold decimalOrder
  split
  · next whole =>
    have nonzero : 0 < num / den := Nat.div_pos whole some'
    apply log_eq (by decide) positive
    · rw [le_div_iff₀ denPos]
      calc _ ≤ ((num / den : Nat) : ℚ) * den := by
            gcongr
            exact_mod_cast (digitCount_bounds nonzero).1
        _ ≤ num := by exact_mod_cast Nat.div_mul_le_self num den
    · rw [sub_add_cancel, div_lt_iff₀ denPos]
      have next : num < (num / den + 1) * den := Nat.lt_mul_of_div_lt (Nat.lt_succ_self _) some'
      exact_mod_cast lt_of_lt_of_le next (Nat.mul_le_mul_right den (reach nonzero))
  · next part =>
    have nonzero : 0 < (den - 1) / num := Nat.div_pos (by omega) some
    have below : (den - 1) / num * num < den := by
      have most := Nat.div_mul_le_self (den - 1) num
      omega
    have above : den ≤ ((den - 1) / num + 1) * num := by
      have next : den - 1 < ((den - 1) / num + 1) * num :=
        Nat.lt_mul_of_div_lt (Nat.lt_succ_self _) some
      omega
    generalize (den - 1) / num = quotient at *
    apply log_eq (by decide) positive
    · rw [zpow_neg, le_div_iff₀ denPos, inv_mul_le_iff₀ (by positivity)]
      exact_mod_cast above.trans (Nat.mul_le_mul_right num (reach nonzero))
    · have split : -(digitCount quotient : ℤ) + 1 = -((digitCount quotient : ℤ) - 1) := by ring
      rw [div_lt_iff₀ denPos, split, zpow_neg, lt_inv_mul_iff₀ (by positivity)]
      calc _ ≤ (quotient : ℚ) * num := by
            gcongr
            exact_mod_cast (digitCount_bounds nonzero).1
        _ < den := by exact_mod_cast below

/-- The two decimals with a given exponent next to a number, and which of them is the
nearer one. -/
structure Neighbours (x : ℚ) (exponent : Int) where
  /-- The greatest significand that is not beyond the number. -/
  below : Nat
  /-- The nearer significand. -/
  near : Nat
  /-- The other significand. -/
  far : Nat
  low : below * (10 : ℚ) ^ exponent ≤ x
  high : x < (below + 1) * (10 : ℚ) ^ exponent
  pair : near = below ∧ far = below + 1 ∨ near = below + 1 ∧ far = below
  half : |x - near * (10 : ℚ) ^ exponent| ≤ 10 ^ exponent / 2

/-- Neighbours are listed with the nearer one first. They are the two whole multiples of the unit
between which the fraction lies, and it is rounded to the nearer one. -/
theorem exists_neighbours (num : Nat) {den : Nat} (some : 0 < den) (exponent : Int) :
    ∃ next : Neighbours ((num : ℚ) / den) exponent,
      neighbours num den exponent = [⟨next.near, exponent⟩, ⟨next.far, exponent⟩] := by
  have scaled := @scale_value 10 (by decide) num den (-exponent)
  have positive : 0 < (scale 10 num den (-exponent)).2 := scale_den_pos (by decide) some num _
  have power : (0 : ℚ) < 10 ^ exponent := by positivity
  unfold neighbours
  dsimp only
  generalize (scale 10 num den (-exponent)).1 = top at *
  generalize (scale 10 num den (-exponent)).2 = bottom at *
  have whole : (num : ℚ) / den = top / bottom * 10 ^ exponent := by
    rw [scaled, mul_assoc, Nat.cast_ofNat, ← zpow_add₀ (by norm_num), neg_add_cancel, zpow_zero,
      mul_one]
  have bottomPos : (0 : ℚ) < bottom := by exact_mod_cast positive
  have low : ((top / bottom : Nat) : ℚ) ≤ top / bottom := by
    rw [le_div_iff₀ bottomPos]
    exact_mod_cast Nat.div_mul_le_self top bottom
  have high : (top : ℚ) / bottom < (top / bottom : Nat) + 1 := by
    rw [div_lt_iff₀ bottomPos]
    exact_mod_cast Nat.lt_mul_of_div_lt (Nat.lt_succ_self (top / bottom)) positive
  have half : |(num : ℚ) / den - roundDiv top bottom * 10 ^ exponent| ≤ 10 ^ exponent / 2 := by
    have rounded := mul_le_mul_of_nonneg_right (roundDiv_near top positive).1 (le_of_lt power)
    rw [whole, ← sub_mul, abs_mul, abs_of_pos power]
    linarith
  rw [whole] at *
  rcases roundDiv_cases top bottom with down | up
  · exact ⟨⟨top / bottom, top / bottom, top / bottom + 1, by gcongr, by gcongr, .inl ⟨rfl, rfl⟩,
      by rwa [down] at half⟩, if_pos down⟩
  · exact ⟨⟨top / bottom, top / bottom + 1, top / bottom, by gcongr, by gcongr, .inr ⟨rfl, rfl⟩,
      by rwa [up] at half⟩, if_neg (by omega)⟩

namespace Neighbours

section Places

variable {x : ℚ} {more : Nat} (positive : 0 < x) (next : Neighbours x (Int.log 10 x - more))

include positive

/-- The lower neighbour has as many digits as there are places down to its last one. The power of
ten below the fraction is a multiple of the unit, so that it is not above the lower neighbour. The
power above is one, too. -/
theorem below_bounds : 10 ^ more ≤ next.below ∧ next.below < 10 ^ (more + 1) := by
  have ten : (10 : ℚ) ≠ 0 := by norm_num
  have power : (0 : ℚ) < 10 ^ (Int.log 10 x - more) := by positivity
  have low : (10 : ℚ) ^ more * 10 ^ (Int.log 10 x - more) ≤ x := by
    rw [← zpow_natCast, ← zpow_add₀ ten, add_sub_cancel]
    exact_mod_cast Int.zpow_log_le_self (by decide) positive
  have high : x < (10 : ℚ) ^ (more + 1) * 10 ^ (Int.log 10 x - more) := by
    have split : ((more + 1 : Nat) : ℤ) + (Int.log 10 x - more) = Int.log 10 x + 1 := by
      push_cast
      ring
    rw [← zpow_natCast, ← zpow_add₀ ten, split]
    exact_mod_cast Int.lt_zpow_succ_log_self (by decide) x
  constructor
  · have reached := lt_of_mul_lt_mul_right (low.trans_lt next.high) (le_of_lt power)
    have least : 10 ^ more < next.below + 1 := by exact_mod_cast reached
    exact Nat.le_of_lt_succ least
  · have bounded := lt_of_mul_lt_mul_right (next.low.trans_lt high) (le_of_lt power)
    exact_mod_cast bounded

/-- No decimal with as many digits lies between the neighbours. With the same places or
fewer it is a multiple of their unit, and with more places it is less than a power of ten
that is not beyond the number. -/
theorem outside {other : Decimal} (short : other.digits.length ≤ more + 1) :
    other.value ≤ next.below * 10 ^ (Int.log 10 x - more) ∨
      (next.below + 1) * 10 ^ (Int.log 10 x - more) ≤ other.value := by
  have ten : (10 : ℚ) ≠ 0 := by norm_num
  rcases le_or_gt (Int.log 10 x - more) other.exponent with coarse | fine
  · obtain ⟨rest, shift⟩ := Int.le.dest coarse
    have multiple : other.value =
        (other.significand * 10 ^ rest : Nat) * 10 ^ (Int.log 10 x - more) := by
      rw [Decimal.value, ← shift, zpow_add₀ ten, zpow_natCast]
      push_cast
      ring
    rw [multiple]
    rcases Nat.lt_or_ge next.below (other.significand * 10 ^ rest) with above | most
    · right
      gcongr
      exact_mod_cast above
    · left
      gcongr
  · left
    apply le_of_lt
    calc other.value < 10 ^ (((more + 1 : Nat) : ℤ) + other.exponent) := Decimal.value_lt short
      _ ≤ 10 ^ ((more : ℤ) + (Int.log 10 x - more)) := by
        apply zpow_le_zpow_right₀ (by norm_num)
        push_cast
        omega
      _ = (10 ^ more : Nat) * 10 ^ (Int.log 10 x - more) := by
        rw [zpow_add₀ ten, zpow_natCast]
        push_cast
        rfl
      _ ≤ next.below * 10 ^ (Int.log 10 x - more) := by
        gcongr
        exact (next.below_bounds positive).1

end Places

section Choice

variable {x : ℚ} {exponent : Int} (next : Neighbours x exponent)

/-- A neighbour that lies between the number and another one, which is read as the same
double, is read as that, too. -/
theorem reads_of_outside {y : ℚ} (notNegative : 0 ≤ y) (same : nearestBits y = nearestBits x) :
    (y ≤ next.below * 10 ^ exponent →
        nearestBits (next.below * 10 ^ exponent) = nearestBits x) ∧
      ((next.below + 1) * 10 ^ exponent ≤ y →
        nearestBits ((next.below + 1) * 10 ^ exponent) = nearestBits x) := by
  have least : 0 ≤ next.below * (10 : ℚ) ^ exponent := by positivity
  constructor
  · intro lower
    apply Nat.le_antisymm
    · exact nearestBits_mono least next.low
    · rw [← same]
      exact nearestBits_mono notNegative lower
  · intro upper
    apply Nat.le_antisymm
    · rw [← same]
      exact nearestBits_mono (by positivity) upper
    · exact nearestBits_mono (least.trans next.low) (le_of_lt next.high)

/-- The significand that is chosen among two neighbours: it reads back, and it is the nearer
one unless that does not. -/
structure Chosen (significand : Nat) : Prop where
  reads : nearestBits (significand * 10 ^ exponent) = nearestBits x
  preferred : significand = next.near ∨ significand = next.far ∧
    nearestBits (next.near * 10 ^ exponent) ≠ nearestBits x

/-- One is chosen when anything that does not lie between the neighbours is read as the same
double. -/
theorem exists_chosen_of_outside {y : ℚ} (notNegative : 0 ≤ y)
    (same : nearestBits y = nearestBits x)
    (outside : y ≤ next.below * 10 ^ exponent ∨ (next.below + 1) * 10 ^ exponent ≤ y) :
    ∃ significand, next.Chosen significand := by
  obtain ⟨lower, upper⟩ := next.reads_of_outside notNegative same
  have one : nearestBits (next.near * 10 ^ exponent) = nearestBits x ∨
      nearestBits (next.far * 10 ^ exponent) = nearestBits x := by
    rcases next.pair with ⟨near, far⟩ | ⟨near, far⟩
    · rw [near, far, Nat.cast_add_one]
      exact outside.imp lower upper
    · rw [near, far, Nat.cast_add_one]
      exact (outside.imp lower upper).symm
  by_cases reads : nearestBits (next.near * 10 ^ exponent) = nearestBits x
  · exact ⟨next.near, reads, .inl rfl⟩
  · exact ⟨next.far, one.resolve_left reads, .inr ⟨rfl, reads⟩⟩

/-- A significand is chosen by reading the neighbours, the nearer one first. The farther one is
asked only when the nearer one is not read back as the same double. -/
theorem find_iff (decimal : Decimal) :
    [(⟨next.near, exponent⟩ : Decimal), ⟨next.far, exponent⟩].find?
        (·.magnitude == nearestBits x) = some decimal ↔
      ∃ significand, decimal = ⟨significand, exponent⟩ ∧ next.Chosen significand := by
  have read (significand : Nat) : Decimal.magnitude ⟨significand, exponent⟩ =
      nearestBits (significand * 10 ^ exponent) :=
    Decimal.magnitude_eq ⟨significand, exponent⟩
  by_cases reads : nearestBits (next.near * 10 ^ exponent) = nearestBits x
  · rw [List.find?_cons_of_pos (by simp [read, reads]), Option.some_inj]
    constructor
    · rintro rfl
      exact ⟨next.near, rfl, reads, .inl rfl⟩
    · rintro ⟨significand, rfl, -, rfl | ⟨-, unread⟩⟩
      · rfl
      · exact absurd reads unread
  · rw [List.find?_cons_of_neg (by simp [read, reads])]
    constructor
    · intro found
      obtain rfl := List.mem_singleton.mp (List.mem_of_find?_eq_some found)
      have here := List.find?_some found
      rw [beq_iff_eq, read] at here
      exact ⟨next.far, rfl, here, .inr ⟨rfl, reads⟩⟩
    · rintro ⟨significand, rfl, here, rfl | ⟨rfl, -⟩⟩
      · exact absurd here reads
      · exact List.find?_cons_of_pos (by simp [read, here])

/-- The neighbour that is chosen is not the farther one, or the other one does not read back. In
terms of the lower and the higher neighbour: each is chosen because it is not the farther one, or
because the other one reads as another double. -/
theorem Chosen.cases {next : Neighbours x exponent} {significand : Nat}
    (chosen : next.Chosen significand) :
    (significand = next.below ∧
        (x - next.below * 10 ^ exponent ≤ (next.below + 1) * 10 ^ exponent - x ∨
          nearestBits ((next.below + 1) * 10 ^ exponent) ≠ nearestBits x)) ∨
      (significand = next.below + 1 ∧
        ((next.below + 1) * 10 ^ exponent - x ≤ x - next.below * 10 ^ exponent ∨
          nearestBits (next.below * 10 ^ exponent) ≠ nearestBits x)) := by
  obtain ⟨above, below⟩ := abs_le.mp next.half
  rcases next.pair with ⟨near, far⟩ | ⟨near, far⟩
  · rcases chosen.preferred with rfl | ⟨rfl, unread⟩
    · left
      rw [near] at below ⊢
      exact ⟨rfl, .inl (by linarith)⟩
    · right
      rw [near] at unread
      exact ⟨far, .inr unread⟩
  · rcases chosen.preferred with rfl | ⟨rfl, unread⟩
    · right
      rw [near] at above ⊢
      push_cast at above
      exact ⟨rfl, .inl (by linarith)⟩
    · left
      rw [near] at unread
      push_cast at unread
      exact ⟨far, .inr unread⟩

/-- What is chosen is the nearest of all that do not lie between the neighbours and are read
as the same double. -/
theorem Chosen.nearest {next : Neighbours x exponent} {significand : Nat}
    (chosen : next.Chosen significand) {y : ℚ} (notNegative : 0 ≤ y)
    (same : nearestBits y = nearestBits x)
    (outside : y ≤ next.below * 10 ^ exponent ∨ (next.below + 1) * 10 ^ exponent ≤ y) :
    |significand * 10 ^ exponent - x| ≤ |y - x| := by
  obtain ⟨lower, upper⟩ := next.reads_of_outside notNegative same
  have low := next.low
  have high := next.high
  rcases chosen.cases with ⟨rfl, closer⟩ | ⟨rfl, closer⟩
  · rw [abs_of_nonpos (by linarith), le_abs]
    rcases outside with down | up
    · right
      linarith
    · left
      have nearer := closer.resolve_right fun unread => unread (upper up)
      linarith
  · push_cast
    rw [abs_of_nonneg (by linarith), le_abs]
    rcases outside with down | up
    · right
      have nearer := closer.resolve_right fun unread => unread (lower down)
      linarith
    · left
      linarith

end Choice

end Neighbours

/-- What is found among the neighbours that are listed is what is chosen. -/
theorem find_neighbours (num : Nat) {den : Nat} (some : 0 < den) (exponent : Int) :
    ∃ next : Neighbours ((num : ℚ) / den) exponent, ∀ decimal,
      (neighbours num den exponent).find?
          (·.magnitude == nearestBits ((num : ℚ) / den)) = Option.some decimal ↔
        ∃ significand, decimal = ⟨significand, exponent⟩ ∧ next.Chosen significand := by
  obtain ⟨next, listed⟩ := exists_neighbours num some exponent
  rw [listed]
  exact ⟨next, next.find_iff⟩

/-! ### The shortest decimal -/

/-- The first number below a bound for which something is found.

Proof: induction on the bound. Numbers are tried in their order, so that the last one is asked
only when nothing was found before. -/
theorem exists_of_findSome?_range {α : Type} {f : Nat → Option α} {bound : Nat} {found : α}
    (result : (List.range bound).findSome? f = some found) :
    ∃ index < bound, f index = some found ∧ ∀ earlier < index, f earlier = none := by
  induction bound with
  | zero => cases result
  | succ bound fewer =>
    rw [List.range_succ, List.findSome?_append] at result
    cases before : (List.range bound).findSome? f with
    | some other =>
      rw [before] at result
      obtain ⟨index, below, here, none⟩ := fewer (before.trans result)
      exact ⟨index, Nat.lt_succ_of_lt below, here, none⟩
    | none =>
      rw [before] at result
      refine ⟨bound, Nat.lt_succ_self bound, by simpa using result, ?_⟩
      intro earlier below
      exact List.findSome?_eq_none_iff.mp before earlier (List.mem_range.mpr below)

/-- Of all decimals that are read as the same double as a number, no other one is shorter,
and none that is as short lies nearer to the number. -/
structure IsShortest (x : ℚ) (decimal : Decimal) : Prop where
  reads : nearestBits decimal.value = nearestBits x
  least : ∀ other : Decimal, nearestBits other.value = nearestBits x →
    decimal.digits.length ≤ other.digits.length
  nearest : ∀ other : Decimal, nearestBits other.value = nearestBits x →
    other.digits.length ≤ decimal.digits.length → |decimal.value - x| ≤ |other.value - x|

section Shortest

variable {mantissa : Nat} {exponent : Int} (canonical : Canonical mantissa exponent)
  (some : 0 < mantissa)

include canonical some

/-- With seventeen digits the nearer neighbour reads back. At this length the unit is so small,
compared with the double, that half of it is less than a part in 2·10¹⁶, which is closer than the
next double. -/
theorem near_reads (next : Neighbours (mantissa * 2 ^ exponent)
      (Int.log 10 ((mantissa : ℚ) * 2 ^ exponent) - (16 : Nat))) :
    nearestBits (next.near * 10 ^ (Int.log 10 ((mantissa : ℚ) * 2 ^ exponent) - (16 : Nat))) =
      nearestBits (mantissa * 2 ^ exponent) := by
  have positive : (0 : ℚ) < mantissa * 2 ^ exponent := by positivity
  have half := next.half
  rw [canonical.nearestBits_exact]
  generalize hx : (mantissa : ℚ) * 2 ^ exponent = x at *
  have unit : (10 : ℚ) ^ (Int.log 10 x - (16 : Nat)) ≤ x / 10 ^ 16 := by
    have order : (10 : ℚ) ^ Int.log 10 x ≤ x := by
      exact_mod_cast Int.zpow_log_le_self (by decide) positive
    rw [zpow_sub₀ (by norm_num), zpow_natCast]
    gcongr
  have nonzero : 0 < next.near := by
    have bounds := (next.below_bounds positive).1
    rcases next.pair with ⟨near, -⟩ | ⟨near, -⟩ <;> omega
  apply canonical.nearestBits_near
  · positivity
  · rw [hx, abs_sub_comm]
    calc _ ≤ (10 : ℚ) ^ (Int.log 10 x - (16 : Nat)) / 2 := half
      _ ≤ x / 10 ^ 16 / 2 := by gcongr
      _ = x / (2 * 10 ^ 16) := by ring

/-- What the search finds: the decimal that is chosen for the first length at which one is. The
exact decimal behind the search is never needed, because the last length that is tried always
succeeds. -/
theorem exists_chosen :
    ∃ (more : Nat) (next : Neighbours (mantissa * 2 ^ exponent)
        (Int.log 10 ((mantissa : ℚ) * 2 ^ exponent) - more)) (significand : Nat),
      more < 17 ∧ next.Chosen significand ∧
      shortest mantissa exponent =
        .stripZeros significand (Int.log 10 ((mantissa : ℚ) * 2 ^ exponent) - more) ∧
      ∀ fewer < more, ∃ next : Neighbours (mantissa * 2 ^ exponent)
          (Int.log 10 ((mantissa : ℚ) * 2 ^ exponent) - fewer),
        ∀ significand, ¬ next.Chosen significand := by
  have reads := near_reads canonical some
  have scaled := @scale_value 2 two_pos mantissa 1 exponent
  have bottom : 0 < (scale 2 mantissa 1 exponent).2 := scale_den_pos two_pos one_pos _ _
  have top : 0 < (scale 2 mantissa 1 exponent).1 := Nat.mul_pos some (Nat.two_pow_pos _)
  rw [Nat.cast_one, div_one, Nat.cast_two] at scaled
  unfold shortest
  dsimp only
  rw [decimalOrder_eq top bottom, magnitude_eq_nearestBits _ bottom]
  generalize (scale 2 mantissa 1 exponent).1 = num at *
  generalize (scale 2 mantissa 1 exponent).2 = den at *
  rw [← scaled] at reads ⊢
  generalize Int.log 10 ((num : ℚ) / den) = first at *
  have searched (more : Nat) := find_neighbours num bottom (first - more)
  cases search : (List.range 17).findSome? fun more =>
      (neighbours num den (first - (more : Nat))).find?
        (·.magnitude == nearestBits ((num : ℚ) / den)) with
  | none =>
    obtain ⟨next, found⟩ := searched 16
    have nothing := List.findSome?_eq_none_iff.mp search 16 (by decide)
    have near := (found ⟨next.near, _⟩).mpr ⟨_, rfl, reads next, .inl rfl⟩
    rw [nothing] at near
    cases near
  | some decimal =>
    obtain ⟨more, few, here, none⟩ := exists_of_findSome?_range search
    obtain ⟨next, found⟩ := searched more
    obtain ⟨significand, rfl, chosen⟩ := (found decimal).mp here
    refine ⟨more, next, significand, few, chosen, rfl, ?_⟩
    intro fewer below
    obtain ⟨next', found'⟩ := searched fewer
    refine ⟨next', fun significand' chosen' => ?_⟩
    have earlier := (found' _).mpr ⟨significand', rfl, chosen'⟩
    rw [none fewer below] at earlier
    cases earlier

/-- The shortest decimal of a double is that, has at most seventeen digits, and neither the first
nor the last of them is a zero.

Proof: the search stops at the first length at which a decimal is chosen. A shorter one that reads
back would have made it stop at that length, since it does not lie between the neighbours there. -/
theorem shortest_isShortest :
    IsShortest (mantissa * 2 ^ exponent) (shortest mantissa exponent) ∧
      (shortest mantissa exponent).digits.length ≤ 17 ∧
      0 < (shortest mantissa exponent).significand ∧
      (shortest mantissa exponent).significand % 10 ≠ 0 := by
  obtain ⟨more, next, significand, few, chosen, found, none⟩ := exists_chosen canonical some
  have positive : (0 : ℚ) < mantissa * 2 ^ exponent := by positivity
  generalize (mantissa : ℚ) * 2 ^ exponent = x at *
  obtain ⟨least, most⟩ := next.below_bounds positive
  have bounds : 0 < significand ∧ significand ≤ 10 ^ (more + 1) := by
    have power := Nat.pow_pos (n := more) (show 0 < 10 by decide)
    rcases chosen.cases with ⟨rfl, -⟩ | ⟨rfl, -⟩ <;> omega
  have value := Decimal.stripZeros_value significand (Int.log 10 x - more)
  have short := Decimal.stripZeros_length bounds.1 (Nat.succ_pos more) bounds.2 (Int.log 10 x - more)
  obtain ⟨nonzero, -, indivisible⟩ :=
    Decimal.stripZeros_significand bounds.1 (Int.log 10 x - more)
  rw [← found] at value short nonzero indivisible
  refine ⟨⟨?_, ?_, ?_⟩, by omega, nonzero, indivisible⟩
  · rw [value]
    exact chosen.reads
  · intro other same
    by_contra shorter
    have some : 0 < other.digits.length := Nat.length_toDigits_pos
    obtain ⟨next', unchosen⟩ := none (other.digits.length - 1) (by omega)
    obtain ⟨significand', chosen'⟩ := next'.exists_chosen_of_outside other.value_nonneg same
      (next'.outside positive (by omega))
    exact unchosen significand' chosen'
  · intro other same shorter
    rw [value]
    exact chosen.nearest other.value_nonneg same (next.outside positive (shorter.trans short))

end Shortest

end Astro.Number
