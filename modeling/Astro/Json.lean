import Astro.Number.Layout

/-!
# JSON documents

Values with strings as texts, and objects whose fields keep the order in which
they are given. A document is written over several lines with two spaces for
each level. Characters that would have to be escaped inside a web page are
escaped here too. A number that is infinite or not a number has no notation, and
a document that holds one cannot be written.
-/

namespace Astro

/-- A JSON value. The fields of an object keep their order, and their keys are written as they
are. -/
inductive Json where
  | null
  | integer (value : Int)
  | number (value : Float)
  | string (value : Text)
  | array (items : List Json)
  | object (fields : List (String × Json))

namespace Json

/-- The letter that names a control character in a JSON escape. -/
def escapeLetter? (c : Char) : Option Char :=
  match c.toNat with
  | 8 => some 'b'
  | 9 => some 't'
  | 10 => some 'n'
  | 12 => some 'f'
  | 13 => some 'r'
  | _ => none

/-- Whether a character is written by its code: the remaining control characters,
those that mean something in a web page, and the separators of lines and
paragraphs. -/
def isCoded (c : Char) : Bool :=
  c.toNat < 32 || c == '<' || c == '>' || c == '&' || c.toNat == 0x2028 || c.toNat == 0x2029

/-- One glyph as it stands in a string. A stray byte is shown as the replacement character, by its
code. -/
def escapeGlyph : Glyph → Text
  | .stray _ => Text.ofString "\\ufffd"
  | .char c =>
    if c = '"' ∨ c = '\\' then Text.ofString "\\" ++ Text.ofChar c
    else
      match escapeLetter? c with
      | some letter => Text.ofString "\\" ++ Text.ofChar letter
      | none =>
        if isCoded c then Text.ofString "\\u" ++ Text.ofHex 4 c.toNat else Text.ofChar c

/-- A string with its quotes. What is between them is escaped glyph by glyph. -/
def quote (text : Text) : Text :=
  Text.ofString "\"" ++ text.glyphs.flatMap escapeGlyph ++ Text.ofString "\""

/-- A new line, indented to a level. Each level is indented by two blanks. -/
def newLine (level : Nat) : Text := Text.ofChars ('\n' :: List.replicate (2 * level) ' ')

mutual

/-- A value, whose further lines are indented to a level. -/
def render (level : Nat) : Json → Text
  | .null => Text.ofString "null"
  | .integer value => Text.ofInt value
  | .number value => Number.format value
  | .string value => quote value
  | .array [] => Text.ofString "[]"
  | .array (first :: rest) =>
    Text.ofString "[" ++ newLine (level + 1) ++ render (level + 1) first ++
      renderItems (level + 1) rest ++ newLine level ++ Text.ofString "]"
  | .object [] => Text.ofString "\x7b\x7d"
  | .object ((key, value) :: rest) =>
    Text.ofString "\x7b" ++ newLine (level + 1) ++ quote (Text.ofString key) ++ Text.ofString ": " ++
      render (level + 1) value ++ renderFields (level + 1) rest ++ newLine level ++
      Text.ofString "\x7d"

/-- Further items of an array, each behind a comma and on a line of its own. -/
def renderItems (level : Nat) : List Json → Text
  | [] => []
  | first :: rest =>
    Text.ofString "," ++ newLine level ++ render level first ++ renderItems level rest

/-- Further fields of an object, each behind a comma and on a line of its own. -/
def renderFields (level : Nat) : List (String × Json) → Text
  | [] => []
  | (key, value) :: rest =>
    Text.ofString "," ++ newLine level ++ quote (Text.ofString key) ++ Text.ofString ": " ++
      render level value ++ renderFields level rest

end

mutual

/-- The numbers in a value, in order. JSON has no infinities and no spelling for what is not a
number, so that it is asked whether all of them are finite. -/
def numbers : Json → List Float
  | .null => []
  | .integer _ => []
  | .number value => [value]
  | .string _ => []
  | .array items => numbersOfItems items
  | .object fields => numbersOfFields fields

/-- The numbers in the items of an array. -/
def numbersOfItems : List Json → List Float
  | [] => []
  | first :: rest => numbers first ++ numbersOfItems rest

/-- The numbers in the fields of an object. -/
def numbersOfFields : List (String × Json) → List Float
  | [] => []
  | (_, value) :: rest => numbers value ++ numbersOfFields rest

end

/-- A value written as a document that ends with a newline, or the reason why it
cannot be written: its first number without a notation. -/
def document (value : Json) : Except Text Text :=
  match value.numbers.find? fun found => found.isNaN || found.isInf with
  | some found =>
    .error (Text.ofString "json: unsupported value: " ++ Number.traceLayout.text found)
  | none => .ok (value.render 0 ++ Text.ofString "\n")

end Json

end Astro
