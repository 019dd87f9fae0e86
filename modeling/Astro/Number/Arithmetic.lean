import Astro.Number.Binary

/-!
# Arithmetic

Sum, difference, product, quotient and square root are those of IEEE 754, with
one rounding each. The remainder is exact. The other functions are fixed
sequences of such operations, so that each result is determined to its last bit:
whole powers by repeated squaring of a mantissa between one half and one, powers
to a fraction by a logarithm and an exponential, sine and cosine by a reduction
to an eighth of a turn and two polynomials. Very large angles are reduced with
as many digits of a turn as their size asks for.
-/

namespace Astro.Number

/-- The remainder of a division whose quotient is cut to a whole number. It has
the sign of the dividend and is exact. -/
def remainder (dividend divisor : Float) : Float :=
  match parts dividend, parts divisor with
  | .finite _ _ _, .infinite _ => dividend
  | .finite negative mantissa exponent, .finite _ mantissa' exponent' =>
    if mantissa' = 0 then nan
    else
      let unit := min exponent exponent'
      let scaled := mantissa * Nat.pow 2 (exponent - unit).toNat
      let rest := scaled % (mantissa' * Nat.pow 2 (exponent' - unit).toNat)
      ofDyadic negative rest unit
  | _, _ => nan

/-- The length of the hypotenuse over two legs, without needless overflow. -/
def hypotenuse (first second : Float) : Float :=
  if first.isInf ∨ second.isInf then infinity false
  else if first.isNaN ∨ second.isNaN then nan
  else
    let longer := max first.abs second.abs
    let shorter := min first.abs second.abs
    if longer == 0 then 0
    else
      let ratio := shorter / longer
      longer * (1 + ratio * ratio).sqrt

/-- Mantissa and exponent of a finite number that is not zero: the mantissa is at
least one half and less than one. -/
def split (value : Float) : Float × Int :=
  match parts value with
  | .finite negative mantissa exponent =>
    let width : Nat := mantissa.log2 + 1
    (ofDyadic negative mantissa (-width), exponent + width)
  | _ => (value, 0)

/-- A number times a power of two, with one rounding. -/
def shift (value : Float) (exponent : Int) : Float :=
  match parts value with
  | .finite negative mantissa exponent' => ofDyadic negative mantissa (exponent' + exponent)
  | _ => value

/-- The whole part of the size of a finite number, and the fraction left. -/
def wholeAndFraction (value : Float) : Nat × Float :=
  match parts value with
  | .finite _ mantissa exponent =>
    let unit := Nat.pow 2 (-exponent).toNat
    let scaled := mantissa * Nat.pow 2 exponent.toNat
    (scaled / unit, ofDyadic false (scaled % unit) (min 0 exponent))
  | _ => (0, 0)

/-- Whether a number is a whole odd number. The sign of a power of a negative number depends on
it. -/
def isOdd (value : Float) : Bool :=
  let (whole, fraction) := wholeAndFraction value
  fraction == 0 && whole % 2 == 1

/-- Multiply the product so far by a power, squaring the base at every binary digit
of the exponent. Product and base are kept as a mantissa and an exponent of two;
when the base's exponent has left all bounds the result is settled. -/
def powerLoop (count : Nat) (product : Float) (productExponent : Int) (base : Float)
    (baseExponent : Int) : Float × Int :=
  if count = 0 then (product, productExponent)
  else if baseExponent < -4096 ∨ 4096 < baseExponent then (product, productExponent + baseExponent)
  else
    let (product, productExponent) :=
      if count % 2 = 1 then (product * base, productExponent + baseExponent)
      else (product, productExponent)
    let square := base * base
    if square < 0.5 then
      powerLoop (count / 2) product productExponent (square + square) (2 * baseExponent - 1)
    else powerLoop (count / 2) product productExponent square (2 * baseExponent)
termination_by count
decreasing_by all_goals omega

/-- The value of a polynomial, by its coefficients from the highest power down. -/
def polynomial (coefficients : List Float) (x : Float) : Float :=
  match coefficients with
  | [] => 0
  | leading :: rest => rest.foldl (fun value coefficient => value * x + coefficient) leading

/-- The leading digits of the logarithm of two. Whole multiples of it are exact. -/
def logTwoHigh : Float := .ofBits 0x3fe62e42fee00000

/-- The digits of the logarithm of two behind the leading ones. -/
def logTwoLow : Float := .ofBits 0x3dea39ef35793c76

/-- The logarithm of a positive number that is finite. The number is a power of two times
what lies around one, and the logarithm of that is a series in the quotient of its
distances from one and from minus one. -/
def logarithm (value : Float) : Float :=
  let (mantissa, order) := split value
  let (mantissa, order) :=
    if mantissa < .ofBits 0x3fe6a09e667f3bcd then (mantissa * 2, order - 1) else (mantissa, order)
  let above := mantissa - 1
  let ratio := above / (2 + above)
  let square := ratio * ratio
  let fourth := square * square
  let odd := square * polynomial
    [.ofBits 0x3fc2f112df3e5244, .ofBits 0x3fc7466496cb03de, .ofBits 0x3fd2492494229359,
     .ofBits 0x3fe5555555555593] fourth
  let even := fourth * polynomial
    [.ofBits 0x3fc39a09d078c69f, .ofBits 0x3fcc71c51d8e78af, .ofBits 0x3fd999999997fa04] fourth
  let half := 0.5 * above * above
  let powers := Float.ofInt order
  powers * logTwoHigh -
    ((half - (ratio * (half + (odd + even)) + powers * logTwoLow)) - above)

/-- The exponential of a number of moderate size. The number is a whole multiple of the
logarithm of two and a rest. A sixteenth of the rest is put into the series, and squaring four
times makes up for that; one is left out until the end, so that nothing small is lost. -/
def exponential (value : Float) : Float :=
  let powers : Int :=
    match parts (value * .ofBits 0x3ff71547652b82fe) with
    | .finite negative mantissa exponent =>
      let (num, den) := scale 2 mantissa 1 exponent
      if negative then -(roundDiv num den : Int) else roundDiv num den
    | _ => 0
  let count := Float.ofInt powers
  let rest := (value - count * .ofBits 0x3fe62e42fefa3000) - count * .ofBits 0x3d53de6af278ece6
  let part := rest * 0.0625
  let series := part * polynomial
    [.ofBits 0x3efa01a01a01a01a, .ofBits 0x3f2a01a01a01a01a, .ofBits 0x3f56c16c16c16c17,
     .ofBits 0x3f81111111111111, .ofBits 0x3fa5555555555555, .ofBits 0x3fc5555555555555, 0.5, 1] part
  let squared := (List.range 4).foldl (fun above _ => above * (above + 2)) series
  shift (squared + 1) powers

/-- The power of a finite base that is not zero to a finite exponent. With an exponent that is
not whole, a negative base has no power. The fraction of the exponent is taken between minus
and plus one half, and its power is where the squaring starts from. -/
def finitePower (base exponent : Float) : Float :=
  let (whole, fraction) := wholeAndFraction exponent
  if fraction != 0 ∧ base < 0 then nan
  else if Nat.pow 2 63 ≤ whole then
    if base == -1 then 1
    else if (base.abs < 1) = (0 < exponent) then 0
    else infinity false
  else
    let (size, rest) := if 0.5 < fraction then (whole + 1, fraction - 1) else (whole, fraction)
    let start := if fraction == 0 then 1 else exponential (rest * logarithm base)
    let (mantissa, order) := split base
    let (product, productExponent) := powerLoop size start 0 mantissa order
    if exponent < 0 then shift (1 / product) (-productExponent)
    else shift product productExponent

/-- The power of a zero to an exponent that is not zero. Its sign counts only for
whole odd exponents. -/
def zeroPower (base exponent : Float) : Float :=
  let negative := isNegative base && isOdd exponent
  if exponent < 0 then infinity negative
  else if negative then base
  else 0

/-- The power of any base to any exponent. One and minus one have no power to an
exponent that is infinite or not a number. -/
def power (base exponent : Float) : Float :=
  if base.abs == 1 ∧ (exponent.isNaN ∨ exponent.isInf) then nan
  else if exponent == 0 ∨ base == 1 then 1
  else if exponent == 1 then base
  else if base.isNaN ∨ exponent.isNaN then nan
  else if base == 0 then zeroPower base exponent
  else if exponent.isInf then
    if (base.abs < 1) = (0 < exponent) then 0 else infinity false
  else if base.isInf then
    if base < 0 then zeroPower (-0.0) (-exponent)
    else if exponent < 0 then 0
    else infinity false
  else if exponent == 0.5 then base.sqrt
  else if exponent == -0.5 then 1 / base.sqrt
  else finitePower base exponent

/-- The size from which angles are reduced with more digits of a turn. -/
def largeAngle : Float := 536870912

/-- The binary digits of four divided by pi, in words of 64: the whole part, and 19 words
behind the point. -/
def eighthsPerUnit : List Nat :=
  [0x0000000000000001, 0x45f306dc9c882a53, 0xf84eafa3ea69bb81, 0xb6c52b3278872083,
   0xfca2c757bd778ac3, 0x6e48dc74849ba5c0, 0x0c925dd413a32439, 0xfc3bd63962534e7d,
   0xd1046bea5d768909, 0xd338e04d68befc82, 0x7323ac7306a673e9, 0x3908bf177bf25076,
   0x3ff12fffbc0b301f, 0xde5e2316b414da3e, 0xda6cfd9e4f96136e, 0x9e8c7ecd3cbfd45a,
   0xea4f758fd7cbe2f6, 0x7a0e73ef14a525d4, 0xd7f6bf623f1aba10, 0xac06608df8f6d757]

/-- How many digits `eighthsPerUnit` has. -/
def eighthsWidth : Nat := 64 * 20

/-- A large angle in an eighth of a turn, as in `reduceAngle`. Of the digits of four divided by
pi, those are left out that only count whole turns, and three words of the others are
enough. What is left of the angle may be negative. -/
def reduceLargeAngle (angle : Float) : Nat × Float :=
  match parts angle with
  | .finite _ mantissa exponent =>
    let digits := eighthsPerUnit.foldl (fun digits word => digits <<< 64 ||| word) 0
    let window := (digits >>> (eighthsWidth - 192 - (exponent + 61).toNat)) % Nat.pow 2 192
    let product := (window * mantissa % Nat.pow 2 192) >>> 64
    let eighths := product >>> 125
    let fraction := (product >>> 61) % Nat.pow 2 64
    let width := fraction.log2
    let bits := (fraction <<< (64 - width)) % Nat.pow 2 64 |||
      (product % Nat.pow 2 64) >>> width
    let rest := ofDyadic false (Nat.pow 2 52 + bits >>> 12) (width - 64 - 52)
    let (even, rest) := if eighths % 2 = 1 then (eighths + 1, rest - 1) else (eighths, rest)
    (even % 8, rest * .ofBits 0x3fe921fb54442d18)
  | _ => (0, angle)

/-- An angle in an eighth of a turn: the count of eighths before it, always even
and less than eight, and what is left of the angle. The three parts of an eighth
of a turn are subtracted one after another, so that nothing is lost. -/
def reduceAngle (angle : Float) : Nat × Float :=
  if largeAngle ≤ angle then reduceLargeAngle angle
  else
    let eighths := (angle * .ofBits 0x3ff45f306dc9c883).toUInt64.toNat
    let even := eighths + eighths % 2
    let count := Float.ofNat even
    let rest :=
      ((angle - count * .ofBits 0x3fe921fb40000000) - count * .ofBits 0x3e64442d00000000) -
        count * .ofBits 0x3ce8469898cc5170
    (even % 8, rest)

/-- Sine of an angle of at most an eighth of a turn. -/
def sineNearZero (angle : Float) : Float :=
  let square := angle * angle
  angle + angle * square * polynomial
    [.ofBits 0x3de5d8fd1fd19ccd, .ofBits 0xbe5ae5e5a9291f5d, .ofBits 0x3ec71de3567d48a1,
     .ofBits 0xbf2a01a019bfdf03, .ofBits 0x3f8111111110f7d0, .ofBits 0xbfc5555555555548] square

/-- Cosine of an angle of at most an eighth of a turn. -/
def cosineNearZero (angle : Float) : Float :=
  let square := angle * angle
  1 - 0.5 * square + square * square * polynomial
    [.ofBits 0xbda8fa49a0861a9b, .ofBits 0x3e21ee9d7b4e3f05, .ofBits 0xbe927e4f7eac4bc6,
     .ofBits 0x3efa01a019c844f5, .ofBits 0xbf56c16c16c14f91, .ofBits 0x3fa555555555554b] square

/-- The sine of an angle. The sine of a negative angle is that of the positive one with its sign
changed. The octant decides which of the two series is used, and in the lower half of the circle
the sign changes again. -/
def sine (angle : Float) : Float :=
  if angle.isNaN ∨ angle.isInf then nan
  else if angle == 0 then angle
  else
    let (octant, rest) := reduceAngle angle.abs
    let lower := 3 < octant
    let value := if octant % 4 = 2 then cosineNearZero rest else sineNearZero rest
    if isNegative angle != lower then -value else value

/-- The cosine of an angle. The sign of the angle does not matter. The octant decides which of the
two series is used and whether the sign changes. -/
def cosine (angle : Float) : Float :=
  if angle.isNaN ∨ angle.isInf then nan
  else
    let (octant, rest) := reduceAngle angle.abs
    let value := if octant % 4 = 2 then sineNearZero rest else cosineNearZero rest
    if octant = 2 ∨ octant = 4 then -value else value

end Astro.Number
