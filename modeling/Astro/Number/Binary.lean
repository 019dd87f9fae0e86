/-!
# Doubles and exact fractions

Numbers are IEEE 754 doubles. A double is taken apart into a sign, a whole
mantissa and a power of two (`parts`), and a fraction of natural numbers is
turned into the nearest double (`magnitude`). Everything between is exact
arithmetic on natural numbers: there is one rounding, to the nearest double and
to the one with the even mantissa in a tie, and it also covers the subnormal
numbers. What is too large becomes infinite.
-/

namespace Astro.Number

/-- What a double is: `mantissa * 2 ^ exponent` with a sign, unless it is not a
number or not finite. -/
inductive Parts where
  | nan
  | infinite (negative : Bool)
  | finite (negative : Bool) (mantissa : Nat) (exponent : Int)
deriving DecidableEq, Repr

/-- The least exponent of a double. It is that of subnormal numbers, and of zero. -/
def leastExponent : Int := -1074

/-- The parts of a double, read off its bits. The sign is the first bit, the exponent field takes
eleven and the mantissa the others. A number whose exponent field is not zero has one more bit of
mantissa. -/
def parts (value : Float) : Parts :=
  let bits : Nat := value.toBits.toNat
  let negative := decide (Nat.pow 2 63 ≤ bits)
  let field : Nat := bits / Nat.pow 2 52 % Nat.pow 2 11
  let fraction := bits % Nat.pow 2 52
  if field = 2047 then
    if fraction = 0 then .infinite negative else .nan
  else if field = 0 then .finite negative fraction leastExponent
  else .finite negative (fraction + Nat.pow 2 52) (field + leastExponent - 1)

/-- The bits of the positive infinity. They follow those of the largest finite
double. -/
def infinityBits : Nat := 2047 * Nat.pow 2 52

/-- The double with the given magnitude bits and sign. The sign is the bit above them. -/
def ofMagnitude (negative : Bool) (bits : Nat) : Float :=
  .ofBits (.ofNat (if negative then bits + Nat.pow 2 63 else bits))

/-- The quotient of two natural numbers, to the nearest whole number and in a
tie to the even one. -/
def roundDiv (num den : Nat) : Nat :=
  let quotient := num / den
  let rest := num % den
  if 2 * rest < den then quotient
  else if den < 2 * rest then quotient + 1
  else quotient + quotient % 2

/-- Numerator and denominator of `num / den` times a power of `base`. -/
def scale (base num den : Nat) (exponent : Int) : Nat × Nat :=
  (num * base.pow exponent.toNat, den * base.pow (-exponent).toNat)

/-- The greatest `k` with `2 ^ k ≤ num / den`, for a fraction that is not zero. -/
def binaryOrder (num den : Nat) : Int :=
  let estimate : Int := (num.log2 : Int) - den.log2
  let (scaledNum, scaledDen) := scale 2 num den (-estimate)
  if scaledDen ≤ scaledNum then estimate else estimate - 1

/-- The exponent of the last mantissa bit of the double nearest to a fraction. -/
def unitExponent (num den : Nat) : Int := max leastExponent (binaryOrder num den - 52)

/-- The magnitude bits of the double nearest to a fraction. Counting mantissas on
past a power of two reaches the next exponent, so a mantissa that rounds up needs
no case of its own. -/
def magnitude (num den : Nat) : Nat :=
  if num = 0 then 0
  else
    let exponent := unitExponent num den
    let (scaledNum, scaledDen) := scale 2 num den (-exponent)
    min infinityBits ((exponent - leastExponent).toNat * Nat.pow 2 52 + roundDiv scaledNum scaledDen)

/-- The magnitude bits of the double nearest to `mantissa * base ^ exponent`, for
a mantissa with `digits` digits. When the number has fewer digits before the point
than `lowest` or more than `highest`, it is not worked out: it is too small or too
large whatever its digits are. -/
def scaledMagnitude (base : Nat) (lowest highest : Int) (mantissa digits : Nat)
    (exponent : Int) : Nat :=
  if mantissa = 0 ∨ digits + exponent < lowest then 0
  else if highest < digits + exponent then infinityBits
  else
    let (num, den) := scale base mantissa 1 exponent
    magnitude num den

/-- The magnitude bits of the double nearest to `mantissa * 2 ^ exponent`. -/
def dyadicMagnitude (mantissa : Nat) (exponent : Int) : Nat :=
  scaledMagnitude 2 (-1100) 1100 mantissa (mantissa.log2 + 1) exponent

/-- The number of decimal digits of a natural number; zero has none. -/
def digitCount (n : Nat) : Nat := if n = 0 then 0 else (Nat.toDigits 10 n).length

/-- The magnitude bits of the double nearest to `mantissa * 10 ^ exponent`. -/
def decimalMagnitude (mantissa : Nat) (exponent : Int) : Nat :=
  scaledMagnitude 10 (-330) 310 mantissa (digitCount mantissa) exponent

/-- The double nearest to `mantissa * 2 ^ exponent`, with a sign. -/
def ofDyadic (negative : Bool) (mantissa : Nat) (exponent : Int) : Float :=
  ofMagnitude negative (dyadicMagnitude mantissa exponent)

/-- Not a number. Of the many bit patterns for it this one is made. -/
def nan : Float := .ofBits 0x7FF8000000000001

/-- Positive or negative infinity. Its magnitude bits are those behind the greatest finite double.
-/
def infinity (negative : Bool) : Float := ofMagnitude negative infinityBits

/-- Whether the sign bit of a double is set. It may be set for zero, too. -/
def isNegative (value : Float) : Bool := decide (Nat.pow 2 63 ≤ value.toBits.toNat)

end Astro.Number
