import Astro.Number.Binary

/-!
# The shortest decimal of a double

Of all decimals that read back as a given double, the shortest one is written,
and of several equally short ones the nearest; in a tie, the one with the even
last digit. It is found as that sentence says: for one digit, two digits and so
on, the two decimals of that length next to the double are read back, the
preferred one first. Seventeen digits are enough for every
double; should they ever not be, the exact decimal value is taken, which reads
back because it is not rounded at all.
-/

namespace Astro.Number

/-- The decimal number `significand * 10 ^ exponent`. It is not negative, as signs are written
apart. -/
structure Decimal where
  significand : Nat
  exponent : Int
deriving DecidableEq, Repr

namespace Decimal

/-- The digits of the significand, most significant first. Zero has one of them. -/
def digits (decimal : Decimal) : List Char := Nat.toDigits 10 decimal.significand

/-- The power of ten that the first digit counts. It is what the exponent is in the form with one
digit before the point. -/
def order (decimal : Decimal) : Int := decimal.exponent + decimal.digits.length - 1

/-- The same number without zeros at the end of the significand. -/
def stripZeros (significand : Nat) (exponent : Int) : Decimal :=
  if significand = 0 ∨ significand % 10 ≠ 0 then ⟨significand, exponent⟩
  else stripZeros (significand / 10) (exponent + 1)
termination_by significand
decreasing_by omega

/-- The magnitude bits of the double that a decimal reads as. -/
def magnitude (decimal : Decimal) : Nat := decimalMagnitude decimal.significand decimal.exponent

end Decimal

/-- The greatest `k` with `10 ^ k ≤ num / den`, for a fraction that is not zero. -/
def decimalOrder (num den : Nat) : Int :=
  if den ≤ num then digitCount (num / den) - 1 else - digitCount ((den - 1) / num)

/-- The two whole multiples of `10 ^ exponent` next to a fraction, the nearer one
first and in a tie the even one. -/
def neighbours (num den : Nat) (exponent : Int) : List Decimal :=
  let (scaledNum, scaledDen) := scale 10 num den (-exponent)
  let below := scaledNum / scaledDen
  if roundDiv scaledNum scaledDen = below then [⟨below, exponent⟩, ⟨below + 1, exponent⟩]
  else [⟨below + 1, exponent⟩, ⟨below, exponent⟩]

/-- The exact decimal value of `mantissa * 2 ^ exponent`. -/
def exactDecimal (mantissa : Nat) (exponent : Int) : Decimal :=
  ⟨mantissa * Nat.pow 2 exponent.toNat * Nat.pow 5 (-exponent).toNat, min 0 exponent⟩

/-- The shortest decimal that reads back as the double `mantissa * 2 ^ exponent`,
which is not zero. -/
def shortest (mantissa : Nat) (exponent : Int) : Decimal :=
  let (num, den) := scale 2 mantissa 1 exponent
  let order := decimalOrder num den
  let bits := magnitude num den
  let found := (List.range 17).findSome? fun more =>
    (neighbours num den (order - (more : Nat))).find? (·.magnitude == bits)
  let decimal := found.getD (exactDecimal mantissa exponent)
  .stripZeros decimal.significand decimal.exponent

end Astro.Number
