import Astro.Settings.Document.Block
import Astro.Settings.Timestamp

/-!
# What plain scalars denote

A scalar in quotes is always a string. A plain one may be nothing, a truth value,
a number, a point in time or the mark of a merge, by its spelling alone. Whole
numbers may have a sign, a base mark and underscores between digits; one that
starts with a needless zero is octal, or a fraction when it has digits that are
not octal. Behind the marks of binary and octal numbers a sign may stand instead.
-/

namespace Astro

/-- The type that the spelling of a scalar has. A truth value is known by its spelling, and the
values of the others are not needed. -/
inductive ScalarTag where
  | null
  | bool (value : Bool)
  | int
  | float
  | timestamp
  | merge
  | str
deriving DecidableEq, Repr

namespace ScalarTag

/-- The name of a type of scalars. These are the tags that errors name. -/
def text : ScalarTag → Text
  | null => Text.ofString "!!null"
  | bool _ => Text.ofString "!!bool"
  | int => Text.ofString "!!int"
  | float => Text.ofString "!!float"
  | timestamp => Text.ofString "!!timestamp"
  | merge => Text.ofString "!!merge"
  | str => Text.ofString "!!str"

/-- The scalars that are known by their whole spelling. Truth values, null and the special numbers
have several spellings each. -/
def words : List (String × ScalarTag) :=
  [("", null), ("~", null), ("null", null), ("Null", null), ("NULL", null),
   ("true", bool true), ("True", bool true), ("TRUE", bool true),
   ("false", bool false), ("False", bool false), ("FALSE", bool false),
   (".nan", float), (".NaN", float), (".NAN", float),
   (".inf", float), (".Inf", float), (".INF", float),
   ("+.inf", float), ("+.Inf", float), ("+.INF", float),
   ("-.inf", float), ("-.Inf", float), ("-.INF", float), ("<<", merge)]

/-- The value of digits in a base, if there are digits and only such. -/
def digitsIn? (base : Nat) (digits : List Char) : Option Nat :=
  if digits ≠ [] ∧ digits.all fun c => (c.isDigit || ('a' ≤ c.toLower && c.toLower ≤ 'z')) &&
      Number.digitValue c < base then
    some (Number.ofDigits base digits)
  else none

/-- The size of a whole number, by its base mark. -/
def wholeSize? : List Char → Option Nat
  | [] => none
  | ['0'] => some 0
  | '0' :: mark :: first :: rest =>
    if mark.toLower = 'x' then digitsIn? 16 (first :: rest)
    else if mark.toLower = 'o' then digitsIn? 8 (first :: rest)
    else if mark.toLower = 'b' then digitsIn? 2 (first :: rest)
    else digitsIn? 8 (mark :: first :: rest)
  | '0' :: rest => digitsIn? 8 rest
  | digits => digitsIn? 10 digits

/-- Whether a size fits a 64-bit word: a signed one if the number has a sign. -/
def fitsWord (signed negative : Bool) (size : Nat) : Bool :=
  if negative then size ≤ Nat.pow 2 63
  else if signed then size < Nat.pow 2 63
  else size < Nat.pow 2 64

/-- Whether a sign may stand before characters, and a size that fits behind it. -/
def isSigned (size? : List Char → Option Nat) (chars : List Char) : Bool :=
  let (negative, unsigned) := Number.readSign chars
  (size? unsigned).any (fitsWord (unsigned != chars) negative)

/-- Whether characters spell a whole number that fits a 64-bit word. -/
def isWhole (chars : List Char) : Bool :=
  isSigned wholeSize? chars ||
    match chars with
    | '0' :: 'b' :: rest => isSigned (digitsIn? 2) rest
    | '0' :: 'o' :: rest => isSigned (digitsIn? 8) rest
    | _ => false

/-- Whether characters spell a fraction in decimal digits that is in range. -/
def isFraction (chars : List Char) : Bool :=
  let (negative, unsigned) := Number.readSign chars
  match Number.readDecimal? negative unsigned with
  | some value => value.isFinite
  | none => false

/-- The type of a plain scalar. Words are looked up first. What starts as a number may be a point
in time or a number, and everything else is a string. -/
def ofPlain (text : Text) : ScalarTag :=
  match words.find? fun word => Text.ofString word.1 = text with
  | some word => word.2
  | none =>
    let chars := text.chars
    let plain := chars.filter (· != '_')
    match chars with
    | [] => str
    | first :: _ =>
      if first == '.' then (if isFraction chars then float else str)
      else if first.isDigit || first == '+' || first == '-' then
        if Timestamp.isTimestamp chars then timestamp
        else if isWhole plain then int
        else if isFraction plain then float
        else str
      else str

/-- The truth values among the older words for them. These count wherever a truth
value is wanted, in quotes or not. -/
def olderBool? (text : Text) : Option Bool :=
  if ["y", "Y", "yes", "Yes", "YES", "on", "On", "ON"].any fun word => Text.ofString word = text then
    some true
  else if ["n", "N", "no", "No", "NO", "off", "Off", "OFF"].any fun word =>
      Text.ofString word = text then
    some false
  else none

end ScalarTag

/-- The type of a scalar. A quoted one is always a string. -/
def Scalar.tag (scalar : Scalar) : ScalarTag :=
  if scalar.quoted then .str else .ofPlain scalar.text

/-- Whether a scalar denotes nothing. Null leaves a setting as it is. -/
def Scalar.isNull (scalar : Scalar) : Bool := scalar.tag = .null

end Astro
