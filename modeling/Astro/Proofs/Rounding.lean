import Astro.Number.Binary
import Mathlib.Algebra.Order.Field.Power
import Mathlib.Algebra.Order.Ring.Abs
import Mathlib.Data.Int.Log
import Mathlib.Data.Rat.Floor
import Mathlib.Tactic.FieldSimp
import Mathlib.Tactic.Linarith
import Mathlib.Tactic.NormNum
import Mathlib.Tactic.Positivity
import Mathlib.Tactic.Ring

/-!
# Rounding to the nearest double

Fractions are rounded in whole numbers: numerator and denominator are scaled by powers
of two and divided. Here this is a function of the fraction itself, whatever its
numerator and denominator (`magnitude_eq_nearestBits`). It keeps the order
(`nearestBits_mono`), gives every double its own bits (`nearestBits_exact`), and gives
the bits of a double to what lies within a part in twice ten to the sixteenth of it
(`nearestBits_near`).
-/

namespace Astro.Number

/-- Scaling by a power of the base is that, whichever of numerator and denominator is
multiplied. -/
theorem scale_value {base : Nat} (positive : 0 < base) (num den : Nat) (exponent : Int) :
    ((scale base num den exponent).1 : ℚ) / (scale base num den exponent).2 =
      num / den * (base : ℚ) ^ exponent := by
  have some : (base : ℚ) ≠ 0 := by positivity
  rcases Int.le_total 0 exponent with up | down
  · obtain ⟨power, rfl⟩ := Int.eq_ofNat_of_zero_le up
    simp [scale, div_mul_eq_mul_div]
  · obtain ⟨power, negated⟩ := Int.eq_ofNat_of_zero_le (Int.neg_nonneg_of_nonpos down)
    obtain rfl : exponent = -(power : Int) := by omega
    simp [scale, div_eq_mul_inv, mul_comm, mul_left_comm]

/-- Scaling leaves a denominator that is not zero. It is multiplied by a power of the base, or
left as it is. -/
theorem scale_den_pos {base den : Nat} (positive : 0 < base) (some : 0 < den) (num : Nat)
    (exponent : Int) : 0 < (scale base num den exponent).2 :=
  Nat.mul_pos some (Nat.pow_pos positive)

/-! ### Quotients -/

/-- A fraction is its whole quotient and what the rest adds to that. -/
theorem fraction_eq {num den : Nat} (some : 0 < den) :
    (num : ℚ) / den = (num / den : Nat) + (num % den : Nat) / (den : ℚ) := by
  have positive : (0 : ℚ) < den := by exact_mod_cast some
  have parts : (den : ℚ) * (num / den : Nat) + (num % den : Nat) = num := by
    exact_mod_cast Nat.div_add_mod num den
  field_simp
  linarith

/-- A quotient is rounded by its rest: down below one half, up above it, and to the even side
where it is one half. -/
theorem roundDiv_rest (num : Nat) {den : Nat} (some : 0 < den) :
    (((num % den : Nat) : ℚ) / den < 1 / 2 → roundDiv num den = num / den) ∧
      (1 / 2 < ((num % den : Nat) : ℚ) / den → roundDiv num den = num / den + 1) ∧
      (((num % den : Nat) : ℚ) / den = 1 / 2 →
        roundDiv num den = num / den + num / den % 2) := by
  have positive : (0 : ℚ) < den := by exact_mod_cast some
  have less : ((num % den : Nat) : ℚ) / den < 1 / 2 ↔ 2 * (num % den) < den := by
    rw [div_lt_div_iff₀ positive two_pos, one_mul, mul_comm]
    exact_mod_cast Iff.rfl
  have more : 1 / 2 < ((num % den : Nat) : ℚ) / den ↔ den < 2 * (num % den) := by
    rw [div_lt_div_iff₀ two_pos positive, one_mul, mul_comm]
    exact_mod_cast Iff.rfl
  unfold roundDiv
  refine ⟨fun below => if_pos (less.mp below), fun above => ?_, fun tie => ?_⟩
  · have passed := more.mp above
    exact (if_neg (by omega)).trans (if_pos passed)
  · have notLess := mt less.mpr (not_lt_of_ge (le_of_eq tie.symm))
    have notMore := mt more.mpr (not_lt_of_ge (le_of_eq tie))
    exact (if_neg notLess).trans (if_neg notMore)

/-- A quotient is rounded down or up. Which of the two depends on the rest. -/
theorem roundDiv_cases (num den : Nat) :
    roundDiv num den = num / den ∨ roundDiv num den = num / den + 1 := by
  unfold roundDiv
  dsimp only
  split
  · left
    rfl
  · split
    · right
      rfl
    · omega

/-- A rounded quotient lies within one half, and it is even where it lies that far.

Proof: by the rest of the division. It is rounded down below one half and up above it, and at one
half to the even neighbour. -/
theorem roundDiv_near (num : Nat) {den : Nat} (some : 0 < den) :
    |(num : ℚ) / den - roundDiv num den| ≤ 1 / 2 ∧
      (|(num : ℚ) / den - roundDiv num den| = 1 / 2 → roundDiv num den % 2 = 0) := by
  obtain ⟨down, up, even⟩ := roundDiv_rest num some
  have low : (0 : ℚ) ≤ (num % den : Nat) / (den : ℚ) := by positivity
  have high : ((num % den : Nat) : ℚ) / den < 1 := by
    rw [div_lt_one (by exact_mod_cast some)]
    exact_mod_cast Nat.mod_lt num some
  rw [fraction_eq some]
  generalize num / den = quotient at *
  generalize ((num % den : Nat) : ℚ) / den = rest at *
  rcases lt_trichotomy rest (1 / 2) with below | tie | above
  · rw [down below, add_sub_cancel_left, abs_of_nonneg low]
    constructor
    · exact le_of_lt below
    · intro half
      exact absurd half (ne_of_lt below)
  · rw [even tie, tie]
    rcases Nat.mod_two_eq_zero_or_one quotient with paired | odd
    · rw [paired]
      constructor
      · norm_num
      · intro _
        simpa using paired
    · rw [odd]
      push_cast
      constructor
      · norm_num [add_sub_add_left_eq_sub]
      · intro _
        omega
  · rw [up above]
    push_cast
    rw [abs_of_nonpos (by linarith)]
    constructor
    · linarith
    · intro half
      linarith

/-- Rounded quotients keep the order.

Proof: were they crossed, both fractions would lie one half away from their roundings and these
next to each other. Both roundings would be ties, and so both even. -/
theorem roundDiv_mono {num den num' den' : Nat} (some : 0 < den) (some' : 0 < den')
    (ordered : (num : ℚ) / den ≤ num' / den') : roundDiv num den ≤ roundDiv num' den' := by
  obtain ⟨near, tie⟩ := roundDiv_near num some
  obtain ⟨near', tie'⟩ := roundDiv_near num' some'
  generalize roundDiv num den = first at near tie ⊢
  generalize roundDiv num' den' = second at near' tie' ⊢
  by_contra crossed
  have apart : (second : ℚ) + 1 ≤ first := by exact_mod_cast Nat.lt_of_not_le crossed
  have above := (abs_le.mp near).1
  have below := (abs_le.mp near').2
  have even : first % 2 = 0 := by
    apply tie
    rw [abs_of_nonpos (by linarith)]
    linarith
  have even' : second % 2 = 0 := by
    apply tie'
    rw [abs_of_nonneg (by linarith)]
    linarith
  have next : (first : ℚ) = second + 1 := by linarith
  have nextNat : first = second + 1 := by exact_mod_cast next
  omega

/-- A whole number is rounded to itself. There is no rest that could be rounded. -/
theorem roundDiv_one (whole : Nat) : roundDiv whole 1 = whole := by
  simp [roundDiv, Nat.mod_one]

/-- A quotient is rounded to no more than a whole number that it does not pass. -/
theorem roundDiv_le {num den whole : Nat} (some : 0 < den) (most : (num : ℚ) / den ≤ whole) :
    roundDiv num den ≤ whole := by
  rw [← roundDiv_one whole]
  apply roundDiv_mono some one_pos
  simpa using most

/-- A quotient is rounded to no less than a whole number that it reaches. -/
theorem le_roundDiv {num den whole : Nat} (some : 0 < den) (least : (whole : ℚ) ≤ num / den) :
    whole ≤ roundDiv num den := by
  rw [← roundDiv_one whole]
  apply roundDiv_mono one_pos some
  simpa using least

/-- A whole number that is less than one half away is the rounded quotient. -/
theorem roundDiv_eq {num den whole : Nat} (some : 0 < den)
    (near : |(num : ℚ) / den - whole| < 1 / 2) : roundDiv num den = whole := by
  have rounded := (roundDiv_near num some).1
  have close : |((roundDiv num den : ℤ) - whole : ℚ)| < 1 := by
    have triangle := abs_sub_le (roundDiv num den : ℚ) (num / den) whole
    rw [abs_sub_comm (roundDiv num den : ℚ) (num / den)] at triangle
    push_cast
    linarith
  have small : |(roundDiv num den : ℤ) - whole| < 1 := by exact_mod_cast close
  have zero := Int.abs_lt_one_iff.mp small
  omega

/-! ### Orders of magnitude -/

/-- The order of magnitude is the one power with the next one beyond. -/
theorem log_eq {base : Nat} (many : 1 < base) {x : ℚ} (positive : 0 < x) {order : Int}
    (low : (base : ℚ) ^ order ≤ x) (high : x < (base : ℚ) ^ (order + 1)) :
    Int.log base x = order := by
  have least := (Int.zpow_le_iff_le_log many positive).mp low
  have most := (Int.lt_zpow_iff_log_lt many positive).mp high
  omega

/-- A number reaches the power of two that its binary logarithm says, and not the next one. -/
theorem log2_bounds {n : Nat} (some : 0 < n) :
    (2 : ℚ) ^ (n.log2 : ℤ) ≤ n ∧ (n : ℚ) < 2 ^ ((n.log2 : ℤ) + 1) := by
  constructor
  · rw [zpow_natCast]
    exact_mod_cast Nat.log2_self_le (Nat.ne_of_gt some)
  · have reach : n < 2 ^ (n.log2 + 1) := Nat.lt_log2_self
    have cast : (n : ℚ) < 2 ^ (n.log2 + 1) := by exact_mod_cast reach
    exact_mod_cast cast

/-- The difference of the logarithms of numerator and denominator is at most one too large. Both
are at least the power of their logarithm and less than the next one. -/
theorem log2_sub_bounds {num den : Nat} (some : 0 < num) (some' : 0 < den) :
    (2 : ℚ) ^ ((num.log2 : ℤ) - den.log2 - 1) ≤ num / den ∧
      (num : ℚ) / den < 2 ^ ((num.log2 : ℤ) - den.log2 + 1) := by
  obtain ⟨numLow, numHigh⟩ := log2_bounds some
  obtain ⟨denLow, denHigh⟩ := log2_bounds some'
  have two : (2 : ℚ) ≠ 0 := by norm_num
  have denPos : (0 : ℚ) < den := by positivity
  constructor
  · rw [le_div_iff₀ denPos]
    calc (2 : ℚ) ^ ((num.log2 : ℤ) - den.log2 - 1) * den
        ≤ 2 ^ ((num.log2 : ℤ) - den.log2 - 1) * 2 ^ ((den.log2 : ℤ) + 1) := by gcongr
      _ = 2 ^ (num.log2 : ℤ) := by
        rw [← zpow_add₀ two]
        congr 1
        omega
      _ ≤ num := numLow
  · rw [div_lt_iff₀ denPos]
    calc (num : ℚ) < 2 ^ ((num.log2 : ℤ) + 1) := numHigh
      _ = 2 ^ ((num.log2 : ℤ) - den.log2 + 1) * 2 ^ (den.log2 : ℤ) := by
        rw [← zpow_add₀ two]
        congr 1
        omega
      _ ≤ 2 ^ ((num.log2 : ℤ) - den.log2 + 1) * den := by gcongr

/-- The binary order is that of the fraction. The fraction, scaled by the order that the lengths
of numerator and denominator give, tells on which side of this estimate it lies. -/
theorem binaryOrder_eq {num den : Nat} (some : 0 < num) (some' : 0 < den) :
    binaryOrder num den = Int.log 2 ((num : ℚ) / den) := by
  have positive : (0 : ℚ) < num / den := by positivity
  obtain ⟨low, high⟩ := log2_sub_bounds some some'
  have scaled := @scale_value 2 two_pos num den (-((num.log2 : ℤ) - den.log2))
  have scaledPos : (0 : ℚ) < (scale 2 num den (-((num.log2 : ℤ) - den.log2))).2 := by
    exact_mod_cast scale_den_pos two_pos some' num _
  have test : (scale 2 num den (-((num.log2 : ℤ) - den.log2))).2 ≤
        (scale 2 num den (-((num.log2 : ℤ) - den.log2))).1 ↔
      (2 : ℚ) ^ ((num.log2 : ℤ) - den.log2) ≤ num / den := by
    rw [← Nat.cast_le (α := ℚ), ← one_le_div scaledPos, scaled]
    push_cast
    rw [zpow_neg, ← div_eq_mul_inv, one_le_div (by positivity)]
  symm
  unfold binaryOrder
  dsimp only
  split
  · next reached => exact log_eq one_lt_two positive (test.mp reached) high
  · next missed =>
    apply log_eq one_lt_two positive low
    rw [sub_add_cancel]
    exact lt_of_not_ge fun reached => missed (test.mpr reached)

/-- The exponent of the last place of the doubles next to a fraction. -/
def lastPlace (x : ℚ) : Int := max leastExponent (Int.log 2 x - 52)

/-- The exponent of the last place is found from numerator and denominator, as it is from the
fraction. -/
theorem unitExponent_eq {num den : Nat} (some : 0 < num) (some' : 0 < den) :
    unitExponent num den = lastPlace ((num : ℚ) / den) := by
  rw [unitExponent, binaryOrder_eq some some', lastPlace]

/-- A larger fraction has no smaller last place. Its binary order is no smaller, and the least
exponent bounds both. -/
theorem lastPlace_mono {x y : ℚ} (positive : 0 < x) (ordered : x ≤ y) :
    lastPlace x ≤ lastPlace y := by
  have orders : Int.log 2 x ≤ Int.log 2 y := Int.log_mono_right positive ordered
  unfold lastPlace
  omega

/-- Counted in last places, a fraction has at most fifty-three binary digits. -/
theorem lt_lastPlaces (x : ℚ) : x * 2 ^ (-lastPlace x) < 2 ^ 53 := by
  have reach : x < (2 : ℚ) ^ (Int.log 2 x + 1) := by
    exact_mod_cast Int.lt_zpow_succ_log_self one_lt_two x
  rw [zpow_neg, ← div_eq_mul_inv, div_lt_iff₀ (by positivity)]
  calc x < (2 : ℚ) ^ (Int.log 2 x + 1) := reach
    _ ≤ 2 ^ ((53 : Int) + lastPlace x) := by
      apply zpow_le_zpow_right₀ one_le_two
      unfold lastPlace
      omega
    _ = 2 ^ 53 * 2 ^ lastPlace x := by
      rw [zpow_add₀ two_ne_zero]
      norm_cast

/-- Counted in last places that are not the least, it has that many. -/
theorem le_lastPlaces {x : ℚ} (positive : 0 < x) (more : leastExponent < lastPlace x) :
    2 ^ 52 ≤ x * 2 ^ (-lastPlace x) := by
  have start : (2 : ℚ) ^ Int.log 2 x ≤ x := by
    exact_mod_cast Int.zpow_log_le_self one_lt_two positive
  have place : Int.log 2 x = 52 + lastPlace x := by
    unfold lastPlace at more ⊢
    omega
  rw [place, zpow_add₀ two_ne_zero] at start
  rw [zpow_neg, ← div_eq_mul_inv, le_div_iff₀ (by positivity)]
  exact_mod_cast start

/-- The last place is the one in which a fraction has fifty-three binary digits, or the
least one when it has no more there. -/
theorem lastPlace_eq {x : ℚ} (positive : 0 < x) {place : Int}
    (high : x * 2 ^ (-place) < 2 ^ 53)
    (low : place = leastExponent ∨ leastExponent ≤ place ∧ 2 ^ 52 ≤ x * 2 ^ (-place)) :
    lastPlace x = place := by
  have power : (0 : ℚ) < 2 ^ place := by positivity
  rw [zpow_neg, ← div_eq_mul_inv] at high low
  have below : Int.log 2 x < 53 + place := by
    apply (Int.lt_zpow_iff_log_lt one_lt_two positive).mp
    rw [Nat.cast_two, zpow_add₀ two_ne_zero]
    exact_mod_cast (div_lt_iff₀ power).mp high
  unfold lastPlace
  rcases low with least | ⟨least, many⟩
  · omega
  · have above : 52 + place ≤ Int.log 2 x := by
      apply (Int.zpow_le_iff_le_log one_lt_two positive).mp
      rw [Nat.cast_two, zpow_add₀ two_ne_zero]
      exact_mod_cast (le_div_iff₀ power).mp many
    omega

/-! ### Magnitude bits -/

/-- The magnitude bits of a fraction in terms of its last place. -/
theorem magnitude_eq {num den : Nat} (some : 0 < num) (some' : 0 < den) :
    ∃ num' den' : Nat, 0 < den' ∧
      (num' : ℚ) / den' = num / den * 2 ^ (-lastPlace ((num : ℚ) / den)) ∧
      magnitude num den = min infinityBits
        ((lastPlace ((num : ℚ) / den) - leastExponent).toNat * 2 ^ 52 + roundDiv num' den') := by
  refine ⟨_, _, scale_den_pos two_pos some' num _, scale_value two_pos num den _, ?_⟩
  rw [magnitude, if_neg (Nat.ne_of_gt some), unitExponent_eq some some']
  rfl

/-- A larger fraction does not have smaller magnitude bits.

Proof: in the same last place it is rounded to no less. In a higher one it has at least
as many last places as there are up to the next exponent below. -/
theorem magnitude_mono {num den num' den' : Nat} (some : 0 < den) (some' : 0 < den')
    (ordered : (num : ℚ) / den ≤ num' / den') : magnitude num den ≤ magnitude num' den' := by
  rcases Nat.eq_zero_or_pos num with rfl | positive
  · simp [magnitude]
  have positiveFraction : (0 : ℚ) < num / den := by positivity
  have positive' : 0 < num' := by
    rcases Nat.eq_zero_or_pos num' with rfl | positive'
    · simp only [Nat.cast_zero, zero_div] at ordered
      exact absurd positiveFraction (not_lt_of_ge ordered)
    · exact positive'
  obtain ⟨top, bottom, bottomPos, fraction, bits⟩ := magnitude_eq positive some
  obtain ⟨top', bottom', bottomPos', fraction', bits'⟩ := magnitude_eq positive' some'
  have places := lastPlace_mono positiveFraction ordered
  have least : leastExponent ≤ lastPlace ((num : ℚ) / den) := le_max_left _ _
  have least' : leastExponent ≤ lastPlace ((num' : ℚ) / den') := le_max_left _ _
  rw [bits, bits']
  apply min_le_min_left
  rcases Int.lt_or_eq_of_le places with below | same
  · have few : roundDiv top bottom ≤ 2 ^ 53 := by
      have most := lt_lastPlaces ((num : ℚ) / den)
      rw [← fraction] at most
      apply roundDiv_le bottomPos
      exact_mod_cast le_of_lt most
    have many : 2 ^ 52 ≤ roundDiv top' bottom' := by
      have fewest := le_lastPlaces (lt_of_lt_of_le positiveFraction ordered)
        (lt_of_le_of_lt least below)
      rw [← fraction'] at fewest
      apply le_roundDiv bottomPos'
      exact_mod_cast fewest
    omega
  · have rounded : roundDiv top bottom ≤ roundDiv top' bottom' := by
      apply roundDiv_mono bottomPos bottomPos'
      rw [fraction, fraction', same]
      gcongr
    omega

/-- The magnitude bits of the double nearest to a fraction. -/
def nearestBits (x : ℚ) : Nat := magnitude x.num.toNat x.den

/-- A fraction that is not negative is its numerator over its denominator. -/
theorem toNat_num_div_den {x : ℚ} (notNegative : 0 ≤ x) : (x.num.toNat : ℚ) / x.den = x := by
  have numerator : ((x.num.toNat : Int) : ℚ) = x.num := by
    rw [Int.toNat_of_nonneg (Rat.num_nonneg.mpr notNegative)]
  rw [← Int.cast_natCast, numerator, Rat.num_div_den]

/-- Magnitude bits are those of the fraction, whatever its numerator and denominator. -/
theorem magnitude_eq_nearestBits (num : Nat) {den : Nat} (some : 0 < den) :
    magnitude num den = nearestBits ((num : ℚ) / den) := by
  have same := toNat_num_div_den (x := (num : ℚ) / den) (by positivity)
  apply Nat.le_antisymm
  · exact magnitude_mono some (Rat.den_pos _) (le_of_eq same.symm)
  · exact magnitude_mono (Rat.den_pos _) some (le_of_eq same)

/-- Rounding keeps the order. A fraction between two others is rounded between their roundings. -/
theorem nearestBits_mono {x y : ℚ} (notNegative : 0 ≤ x) (ordered : x ≤ y) :
    nearestBits x ≤ nearestBits y := by
  apply magnitude_mono (Rat.den_pos x) (Rat.den_pos y)
  rwa [toNat_num_div_den notNegative, toNat_num_div_den (notNegative.trans ordered)]

/-- Rounding ends at infinity: no fraction has larger magnitude bits. -/
theorem nearestBits_le (x : ℚ) : nearestBits x ≤ infinityBits := by
  unfold nearestBits magnitude
  split
  · exact Nat.zero_le _
  · exact min_le_left _ _

/-- A fraction that is less than half a last place away from a whole number of last
places is rounded to that. -/
theorem nearestBits_eq {x : ℚ} (positive : 0 < x) {whole : Nat}
    (near : |x * 2 ^ (-lastPlace x) - whole| < 1 / 2) :
    nearestBits x =
      min infinityBits ((lastPlace x - leastExponent).toNat * 2 ^ 52 + whole) := by
  have numerator : 0 < x.num.toNat := by
    have := Rat.num_pos.mpr positive
    omega
  obtain ⟨top, bottom, some, fraction, bits⟩ := magnitude_eq numerator (Rat.den_pos x)
  rw [toNat_num_div_den (le_of_lt positive)] at fraction bits
  rw [← fraction] at near
  rw [nearestBits, bits, roundDiv_eq some near]

/-- What is next to nothing is rounded to zero, and what is too large to infinity. -/
theorem nearestBits_extremes :
    nearestBits (2 ^ (-1075 : Int)) = 0 ∧ nearestBits (2 ^ (1024 : Int)) = infinityBits := by
  have below (power : Nat) : nearestBits (2 ^ (-power : Int)) = magnitude 1 (2 ^ power) := by
    rw [magnitude_eq_nearestBits 1 (Nat.two_pow_pos power)]
    simp
  have above (power : Nat) : nearestBits (2 ^ (power : Int)) = magnitude (2 ^ power) 1 := by
    rw [magnitude_eq_nearestBits _ one_pos]
    simp
  constructor
  · refine (below 1075).trans ?_
    decide +kernel
  · refine (above 1024).trans ?_
    decide +kernel

/-! ### Doubles -/

/-- Mantissa and exponent of a finite double: the mantissa has fifty-three binary digits,
or no more and the exponent is the least. -/
structure Canonical (mantissa : Nat) (exponent : Int) : Prop where
  digits : mantissa < 2 ^ 53
  least : leastExponent ≤ exponent
  most : exponent ≤ 971
  full : exponent = leastExponent ∨ 2 ^ 52 ≤ mantissa

namespace Canonical

variable {mantissa : Nat} {exponent : Int} (canonical : Canonical mantissa exponent)

include canonical

/-- The magnitude bits of finite doubles stand before those of infinity. -/
theorem lt_infinityBits :
    (exponent - leastExponent).toNat * 2 ^ 52 + mantissa < infinityBits := by
  have digits := canonical.digits
  have most := canonical.most
  have bits : infinityBits = 2047 * 2 ^ 52 := by decide
  simp only [leastExponent, bits]
  omega

/-- Magnitude bits tell mantissas and exponents apart. The mantissa is what is left of them, and
its width decides where the exponent starts. -/
theorem eq_of_bits {mantissa' : Nat} {exponent' : Int} (other : Canonical mantissa' exponent')
    (same : (exponent - leastExponent).toNat * 2 ^ 52 + mantissa =
      (exponent' - leastExponent).toNat * 2 ^ 52 + mantissa') :
    mantissa = mantissa' ∧ exponent = exponent' := by
  obtain ⟨digits, least, -, full⟩ := canonical
  obtain ⟨digits', least', -, full'⟩ := other
  simp only [leastExponent] at *
  omega

/-- Where fifty-three binary digits fit, what is less than half a last place away from a
double is rounded to it. -/
theorem nearestBits_same_place {x : ℚ} (positive : 0 < x)
    (near : |x * 2 ^ (-exponent) - mantissa| < 1 / 2)
    (same : exponent = leastExponent ∨ 2 ^ 52 ≤ x * 2 ^ (-exponent)) :
    nearestBits x = (exponent - leastExponent).toNat * 2 ^ 52 + mantissa := by
  have place : lastPlace x = exponent := by
    apply lastPlace_eq positive
    · have digits : (mantissa : ℚ) + 1 ≤ 2 ^ 53 := by exact_mod_cast canonical.digits
      have below := (abs_lt.mp near).2
      linarith
    · exact same.imp_right fun many => ⟨canonical.least, many⟩
  rw [← place] at near
  rw [nearestBits_eq positive near, place, min_eq_right (le_of_lt canonical.lt_infinityBits)]

/-- Below a power of two the last place is half as wide. What is less than a quarter of
the wider one away from the power is rounded to it. -/
theorem nearestBits_lower_place {x : ℚ} (positive : 0 < x) (more : exponent ≠ leastExponent)
    (few : x * 2 ^ (-exponent) < 2 ^ 52)
    (near : |x * 2 ^ (-exponent) - mantissa| < 1 / 4) :
    nearestBits x = (exponent - leastExponent).toNat * 2 ^ 52 + mantissa := by
  obtain ⟨above, below⟩ := abs_lt.mp near
  have power : mantissa = 2 ^ 52 := by
    have cast : (mantissa : ℚ) < 2 ^ 52 + 1 := by linarith
    have most : mantissa < 2 ^ 52 + 1 := by exact_mod_cast cast
    have fewest := canonical.full.resolve_left more
    omega
  have powerCast : (mantissa : ℚ) = 2 ^ 52 := by exact_mod_cast power
  have double : x * 2 ^ (-(exponent - 1)) = 2 * (x * 2 ^ (-exponent)) := by
    have split : -(exponent - 1) = 1 + -exponent := by omega
    rw [split, zpow_add₀ two_ne_zero, zpow_one]
    ring
  have least := canonical.least
  have place : lastPlace x = exponent - 1 := by
    apply lastPlace_eq positive
    · rw [double]
      linarith
    · right
      rw [double]
      constructor
      · omega
      · linarith
  have nearDouble : |x * 2 ^ (-lastPlace x) - (2 ^ 53 : Nat)| < 1 / 2 := by
    rw [place, double, abs_lt]
    push_cast
    constructor <;> linarith
  have most := canonical.lt_infinityBits
  rw [nearestBits_eq positive nearDouble, place]
  simp only [leastExponent] at *
  omega

/-- What lies within a part in twice ten to the sixteenth of a double has its magnitude
bits, since that is less than a quarter of its last place, or than half of it when the
double is not a power of two. -/
theorem nearestBits_near {x : ℚ} (positive : 0 < x)
    (near : |x - mantissa * 2 ^ exponent| ≤ mantissa * 2 ^ exponent / (2 * 10 ^ 16)) :
    nearestBits x = (exponent - leastExponent).toNat * 2 ^ 52 + mantissa := by
  have power : (0 : ℚ) < 2 ^ (-exponent) := by positivity
  have cancel : (2 : ℚ) ^ exponent * 2 ^ (-exponent) = 1 := by
    rw [← zpow_add₀ two_ne_zero, add_neg_cancel, zpow_zero]
  have places : |x * 2 ^ (-exponent) - mantissa| ≤ mantissa / (2 * 10 ^ 16) := by
    calc |x * 2 ^ (-exponent) - mantissa|
        = |x - mantissa * 2 ^ exponent| * 2 ^ (-exponent) := by
          rw [← abs_of_pos power, ← abs_mul, abs_of_pos power, sub_mul, mul_assoc, cancel, mul_one]
      _ ≤ mantissa * 2 ^ exponent / (2 * 10 ^ 16) * 2 ^ (-exponent) := by gcongr
      _ = mantissa / (2 * 10 ^ 16) := by
          rw [div_mul_eq_mul_div, mul_assoc, cancel, mul_one]
  have digits : (mantissa : ℚ) + 1 ≤ 2 ^ 53 := by exact_mod_cast canonical.digits
  have half : |x * 2 ^ (-exponent) - mantissa| < 1 / 2 := by
    apply lt_of_le_of_lt places
    rw [div_lt_div_iff₀ (by norm_num) two_pos]
    linarith
  by_cases same : exponent = leastExponent ∨ 2 ^ 52 ≤ x * 2 ^ (-exponent)
  · exact canonical.nearestBits_same_place positive half same
  · obtain ⟨more, few⟩ := not_or.mp same
    have few := lt_of_not_ge few
    apply canonical.nearestBits_lower_place positive more few
    have most : (mantissa : ℚ) < 2 ^ 52 + 1 := by
      have above := (abs_lt.mp half).1
      linarith
    apply lt_of_le_of_lt places
    rw [div_lt_div_iff₀ (by norm_num) (by norm_num)]
    linarith

/-- A double is rounded to itself. Its last place is where its mantissa ends, so that nothing is
left to round. -/
theorem nearestBits_exact :
    nearestBits (mantissa * 2 ^ exponent) =
      (exponent - leastExponent).toNat * 2 ^ 52 + mantissa := by
  rcases Nat.eq_zero_or_pos mantissa with rfl | some
  · have least : exponent = leastExponent := by
      have full := canonical.full
      omega
    rw [Nat.cast_zero, zero_mul, least, sub_self]
    decide
  · apply canonical.nearestBits_near
    · positivity
    · rw [sub_self, abs_zero]
      positivity

end Canonical

end Astro.Number
