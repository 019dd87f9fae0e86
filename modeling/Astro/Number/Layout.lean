import Astro.Number.Decimal
import Astro.Text.Lines

/-!
# Writing numbers

How a number is written is a matter of a few decisions: from which size to which
one digits are written out positionally, how wide an exponent is at least, and what
stands for the values that have no digits. The digits themselves are always those of
the shortest decimal.

Trace records decide by the order of magnitude of these digits, and their decisions are
kept in a record. Programs compare the number itself with two others, and take the zeros
away that stand before an exponent.
-/

namespace Astro.Number

/-- The decisions about how numbers are written. Numbers are printed and traced with different
ones. -/
structure Layout where
  /-- The least order of magnitude that is written positionally. -/
  least : Int
  /-- The greatest order of magnitude that is written positionally. -/
  greatest : Int
  /-- The least number of digits of an exponent. -/
  exponentWidth : Nat
  nan : Text
  infinity : Text
  negativeInfinity : Text

namespace Layout

/-- Zeros. There are as many as are asked for. -/
def zeros (count : Nat) : List Char := List.replicate count '0'

/-- Digits written out positionally, when the first one counts `10 ^ order`. -/
def positional (digits : List Char) (order : Int) : List Char :=
  if order < 0 then '0' :: '.' :: zeros (-order - 1).toNat ++ digits
  else
    let whole := order.toNat + 1
    if digits.length ≤ whole then digits ++ zeros (whole - digits.length)
    else digits.take whole ++ '.' :: digits.drop whole

/-- An exponent with its sign. Zeros fill up its digits to a least width. -/
def exponentPart (width : Nat) (order : Int) : List Char :=
  let digits := Nat.toDigits 10 order.natAbs
  'e' :: (if order < 0 then '-' else '+') :: zeros (width - digits.length) ++ digits

/-- Digits with a point behind the first one, if there are more, and an exponent. -/
def scientific (width : Nat) (digits : List Char) (order : Int) : List Char :=
  let mantissa :=
    match digits with
    | first :: second :: more => first :: '.' :: second :: more
    | _ => digits
  mantissa ++ exponentPart width order

/-- The characters of a decimal that is not zero. It is written positionally when its order lies
between the layout's limits. -/
def decimal (layout : Layout) (decimal : Decimal) : List Char :=
  if layout.least ≤ decimal.order ∧ decimal.order ≤ layout.greatest then
    positional decimal.digits decimal.order
  else scientific layout.exponentWidth decimal.digits decimal.order

/-- A number as it is written. A negative zero keeps its sign. -/
def text (layout : Layout) (value : Float) : Text :=
  match parts value with
  | .nan => layout.nan
  | .infinite negative => if negative then layout.negativeInfinity else layout.infinity
  | .finite negative mantissa exponent =>
    let sign := if negative then ['-'] else []
    let body := if mantissa = 0 then ['0'] else layout.decimal (shortest mantissa exponent)
    Text.ofChars (sign ++ body)

end Layout

/-- Trace records write numbers positionally from a ten-thousandth up to, but not
including, a million, and exponents with at least two digits. -/
def traceLayout : Layout where
  least := -4
  greatest := 5
  exponentWidth := 2
  nan := Text.ofString "NaN"
  infinity := Text.ofString "+Inf"
  negativeInfinity := Text.ofString "-Inf"

/-- A number in exponent form without the zeros before its exponent, of which one is
left when there is no other digit. -/
def trimExponent (form : List Char) : List Char :=
  let mantissa := form.takeWhile (· ≠ 'e')
  let exponent := (form.dropWhile (· ≠ 'e')).drop 1
  let digits := (exponent.drop 1).dropWhile (· = '0')
  mantissa ++ 'e' :: exponent.take 1 ++ (if digits = [] then ['0'] else digits)

/-- The least size of a number that programs write positionally. -/
def leastPositional : Float := 1e-6

/-- The least size of a number that is too large for programs to write positionally. -/
def leastScientific : Float := 1e21

/-- A number as programs write it. A negative zero keeps its sign. -/
def format (value : Float) : Text :=
  match parts value with
  | .nan => Text.ofString "NaN"
  | .infinite negative => Text.ofString (if negative then "-Infinity" else "Infinity")
  | .finite negative mantissa exponent =>
    let sign := if negative then ['-'] else []
    if mantissa = 0 then Text.ofChars (sign ++ ['0'])
    else
      let decimal := shortest mantissa exponent
      if leastPositional ≤ value.abs ∧ value.abs < leastScientific then
        Text.ofChars (sign ++ Layout.positional decimal.digits decimal.order)
      else
        Text.ofChars (trimExponent (sign ++ Layout.scientific 2 decimal.digits decimal.order))

end Astro.Number
