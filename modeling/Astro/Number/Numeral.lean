import Astro.Number.Binary
import Astro.Text.Basic

/-!
# Reading numerals

The words for numbers: decimal digits with an optional point and an optional
exponent, hexadecimal digits after `0x` with an exponent of two that may not be
left out, and the names of the values that have no digits. All may have a sign,
except the one that is not a number. Digits must stand on at least one side of a
point, and a single underscore may stand between two of them. A numeral denotes
the nearest double; none is out of range.

Only so many digits of a decimal numeral are told apart. Those behind them can no
longer change the nearest double except by standing before the point: a number
whose leading digits do not settle it, with more whole digits than are told
apart, loses the places of the others. Leading digits never settle a number that
is too small for a whole mantissa, or too large.
-/

namespace Astro.Number

/-- What is left of a numeral behind its sign, and whether that was a minus. -/
def readSign : List Char → Bool × List Char
  | '-' :: rest => (true, rest)
  | '+' :: rest => (false, rest)
  | word => (false, word)

/-- The value of a digit, in any base up to sixteen. -/
def digitValue (c : Char) : Nat :=
  if c.isDigit then c.toNat - '0'.toNat else c.toLower.toNat - 'a'.toNat + 10

/-- Whether a character is a digit of the numerals in a base. -/
def isDigitOf (hexadecimal : Bool) (c : Char) : Bool :=
  c.isDigit || (hexadecimal && 'a' ≤ c.toLower && c.toLower ≤ 'f')

/-- The number that digits denote. The first one counts most. -/
def ofDigits (base : Nat) (digits : List Char) : Nat :=
  digits.foldl (fun value digit => value * base + digitValue digit) 0

/-- Whether every underscore has a digit on either side. The flag says whether a digit,
or the mark of the base, stands before the characters. -/
def separatesDigits (hexadecimal afterDigit : Bool) : List Char → Bool
  | [] => true
  | '_' :: rest =>
    afterDigit && rest.head?.any (isDigitOf hexadecimal) && separatesDigits hexadecimal false rest
  | c :: rest => separatesDigits hexadecimal (isDigitOf hexadecimal c) rest

/-- Characters without the underscores between digits, if there are no others. -/
def withoutSeparators? (hexadecimal : Bool) (word : List Char) : Option (List Char) :=
  if separatesDigits hexadecimal hexadecimal word then some (word.filter (· ≠ '_')) else none

/-- The whole digits and the digits behind a point, and what is left. -/
def readMantissa (hexadecimal : Bool) (word : List Char) : List Char × List Char × List Char :=
  let whole := word.takeWhile (isDigitOf hexadecimal)
  match word.dropWhile (isDigitOf hexadecimal) with
  | '.' :: rest =>
    (whole, rest.takeWhile (isDigitOf hexadecimal), rest.dropWhile (isDigitOf hexadecimal))
  | rest => (whole, [], rest)

/-- The number that the digits of an exponent denote. Digits no longer count once
it has reached ten thousand, which is out of range for every mantissa that can be
written. -/
def ofExponentDigits (digits : List Char) : Nat :=
  digits.foldl (fun value digit => if value < 10000 then value * 10 + digitValue digit else value) 0

/-- The exponent behind a mark, to the end of the word. -/
def readExponent? (mark : Char) : List Char → Option Int
  | [] => none
  | first :: rest =>
    let (negative, digits) := readSign rest
    if first.toLower = mark ∧ digits ≠ [] ∧ digits.all Char.isDigit then
      let size : Int := ofExponentDigits digits
      some (if negative then -size else size)
    else none

/-- How many leading digits are tried first. A mantissa of so many digits fits into sixty-four
bits. -/
def leadingCount : Nat := 19

/-- How many digits are told apart at all. Those behind them count together as a little more than
nothing, if one of them is not zero. -/
def distinctCount : Nat := 800

/-- Whether digits hold one that is not zero. A number whose digits hold none is zero, whatever
its exponent. -/
def isPositive (digits : List Char) : Bool := digits.any (· ≠ '0')

/-- Whether magnitude bits are those of a finite double with a whole mantissa. -/
def IsNormal (bits : Nat) : Prop := Nat.pow 2 52 ≤ bits ∧ bits < infinityBits

/-- Being the bits of a double with a whole mantissa is tested by two comparisons. -/
instance (bits : Nat) : Decidable (IsNormal bits) :=
  inferInstanceAs (Decidable (Nat.pow 2 52 ≤ bits ∧ bits < infinityBits))

/-- The magnitude bits that the leading digits of a number settle: those of the double
that is nearest whatever digits follow. The digits start with one that is not
zero, and `point` of them stand before the point. -/
def leadingMagnitude? (digits : List Char) (point : Int) : Option Nat :=
  let leading := digits.take leadingCount
  let significand := ofDigits 10 leading
  let exponent := point - leading.length
  let least := decimalMagnitude significand exponent
  let same := isPositive (digits.drop leadingCount) →
    decimalMagnitude (significand + 1) exponent = least
  if IsNormal least ∧ same then some least else none

/-- The magnitude bits of the double nearest to the digits that are told apart. What
follows them counts only as a little more than nothing. -/
def distinctMagnitude (digits : List Char) (point : Int) : Nat :=
  let distinct := digits.take distinctCount
  let told := if isPositive (digits.drop distinctCount) then distinct ++ ['1'] else distinct
  decimalMagnitude (ofDigits 10 told) (point - told.length)

/-- The value of a numeral without its sign. Where its leading digits do not settle
it, the point stands behind the last digit that is told apart at the latest. -/
def readDecimal? (negative : Bool) (word : List Char) : Option Float := do
  let word ← withoutSeparators? false word
  let (whole, fraction, rest) := readMantissa false word
  if whole = [] ∧ fraction = [] then none
  else
    let exponent ← if rest = [] then some 0 else readExponent? 'e' rest
    let digits := (whole ++ fraction).dropWhile (· = '0')
    let point : Int := digits.length - fraction.length
    some (ofMagnitude negative
      ((leadingMagnitude? digits (point + exponent)).getD
        (distinctMagnitude digits (min point distinctCount + exponent))))

/-- The value of a hexadecimal numeral without its sign and its `0x`. -/
def readHexadecimal? (negative : Bool) (word : List Char) : Option Float := do
  let digits ← withoutSeparators? true word
  let (whole, fraction, rest) := readMantissa true digits
  if whole = [] ∧ fraction = [] then none
  else
    let exponent ← readExponent? 'p' rest
    some (ofDyadic negative (ofDigits 16 (whole ++ fraction)) (exponent - 4 * fraction.length))

/-- The value of a name for a number, in upper or lower case. -/
def readNamed? (word : List Char) : Option Float :=
  let (negative, rest) := readSign (word.map Char.toLower)
  if word.map Char.toLower = "nan".toList then some nan
  else if rest = "inf".toList ∨ rest = "infinity".toList then some (infinity negative)
  else none

/-- The value of a numeral, if the text is one. -/
def ofNumeral? (text : Text) : Option Float :=
  let word := text.chars
  match readNamed? word with
  | some value => some value
  | none =>
    let (negative, unsigned) := readSign word
    match unsigned with
    | '0' :: 'x' :: rest => readHexadecimal? negative rest
    | '0' :: 'X' :: rest => readHexadecimal? negative rest
    | _ => readDecimal? negative unsigned

end Astro.Number
