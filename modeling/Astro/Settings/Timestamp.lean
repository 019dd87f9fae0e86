import Astro.Number.Numeral

/-!
# Points in time

A plain scalar may spell a point in time: a date, or a date and a time of day.
With a letter between the two a time zone has to follow, with spaces between them
none may. Months, days, hours, minutes and seconds have one digit or two, and the
day must be one of its month. A fraction of a second may stand behind the seconds.
-/

namespace Astro.Timestamp

/-- A number of one or two digits, and what follows. -/
def readShort? : List Char → Option (Nat × List Char)
  | [] => none
  | [first] => if first.isDigit then some (Number.digitValue first, []) else none
  | first :: second :: rest =>
    if !first.isDigit then none
    else if second.isDigit then some (Number.ofDigits 10 [first, second], rest)
    else some (Number.digitValue first, second :: rest)

/-- What follows a character that has to come first. There is nothing behind it when another
character comes first or none at all. -/
def skip? (wanted : Char) : List Char → Option (List Char)
  | [] => none
  | first :: rest => if first = wanted then some rest else none

/-- Whether a year has a leap day. Every fourth year does, except for the full centuries that are
no multiple of four hundred years. -/
def isLeap (year : Nat) : Bool := year % 4 == 0 && (year % 100 != 0 || year % 400 == 0)

/-- The number of days of a month of a year; there is none outside the twelve. -/
def daysIn (year month : Nat) : Nat :=
  match month with
  | 1 | 3 | 5 | 7 | 8 | 10 | 12 => 31
  | 4 | 6 | 9 | 11 => 30
  | 2 => if isLeap year then 29 else 28
  | _ => 0

/-- What follows a date. The year has four digits, and the day has to exist in its month. Month
and day may be written with one digit. -/
def afterDate? (chars : List Char) : Option (List Char) := do
  let (digits, rest) := (chars.takeWhile Char.isDigit, chars.dropWhile Char.isDigit)
  let (month, rest) ← readShort? (← skip? '-' rest)
  let (day, rest) ← readShort? (← skip? '-' rest)
  if digits.length = 4 ∧ 1 ≤ day ∧ day ≤ daysIn (Number.ofDigits 10 digits) month then some rest
  else none

/-- What follows an optional fraction: a point or a comma and digits. -/
def skipFraction : List Char → List Char
  | mark :: digit :: rest =>
    if (mark == '.' || mark == ',') && digit.isDigit then rest.dropWhile Char.isDigit
    else mark :: digit :: rest
  | chars => chars

/-- What follows a time of day. It has hours, minutes and seconds in their ranges, and perhaps a
fraction of a second. -/
def afterTime? (chars : List Char) : Option (List Char) := do
  let (hour, rest) ← readShort? chars
  let (minute, rest) ← readShort? (← skip? ':' rest)
  let (second, rest) ← readShort? (← skip? ':' rest)
  if hour < 24 ∧ minute < 60 ∧ second < 60 then some (skipFraction rest) else none

/-- Whether characters are a time zone: a `Z`, or a sign with hours and minutes of two
digits each, which may be a whole day and a whole hour. -/
def isZone : List Char → Bool
  | ['Z'] => true
  | [sign, h₁, h₂, ':', m₁, m₂] =>
    (sign == '+' || sign == '-') && [h₁, h₂, m₁, m₂].all Char.isDigit &&
      Number.ofDigits 10 [h₁, h₂] ≤ 24 && Number.ofDigits 10 [m₁, m₂] ≤ 60
  | _ => false

/-- Whether characters spell a point in time. That is a date, or a date and a time of day. Behind
a blank the time stands alone, and behind a letter it needs its zone. -/
def isTimestamp (chars : List Char) : Bool :=
  match afterDate? chars with
  | none => false
  | some [] => true
  | some (mark :: rest) =>
    if mark == ' ' then afterTime? (rest.dropWhile (· == ' ')) == some []
    else (mark == 'T' || mark == 't') && (afterTime? rest).any isZone

end Astro.Timestamp
