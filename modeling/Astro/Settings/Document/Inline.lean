import Astro.Number.Numeral
import Astro.Settings.Document

/-!
# Nodes within a line

Scalars in quotes, plain scalars, and collections in brackets. A colon ends a key
only before a gap or the end of the line, and a comment starts only behind a gap.
-/

namespace Astro.Document

/-- Whether a character separates words on a line. These are blanks and tabs. -/
def isGap (c : Char) : Bool := c == ' ' || c == '\t'

/-- Characters without the gap before them. -/
def skipGap (chars : List Char) : List Char := chars.dropWhile isGap

/-- Characters without the gap behind them. -/
def trimGap (chars : List Char) : List Char := (chars.reverse.dropWhile isGap).reverse

/-- Whether nothing but a gap and a comment is left of a line. -/
def isEnd (chars : List Char) : Bool :=
  match skipGap chars with
  | [] => true
  | c :: _ => c == '#'

/-- Whether a colon before these characters ends a key. It does before a gap or at the end of the
line. Before anything else it is part of the text. -/
def endsKey (chars : List Char) : Bool :=
  match chars with
  | [] => true
  | c :: _ => isGap c

/-- The text between single quotes, where two quotes stand for one, and what
follows; the characters start behind the opening quote. -/
def readSingleQuoted : List Char → Option (List Char × List Char)
  | [] => none
  | '\'' :: '\'' :: rest => (readSingleQuoted rest).map fun (text, left) => ('\'' :: text, left)
  | '\'' :: rest => some ([], rest)
  | c :: rest => (readSingleQuoted rest).map fun (text, left) => (c :: text, left)

/-- The character that a letter behind a backslash stands for. -/
def unescape? : Char → Option Char
  | '0' => some (Char.ofNat 0)
  | 'a' => some (Char.ofNat 7)
  | 'b' => some (Char.ofNat 8)
  | 't' => some '\t'
  | '\t' => some '\t'
  | 'n' => some '\n'
  | 'v' => some (Char.ofNat 11)
  | 'f' => some (Char.ofNat 12)
  | 'r' => some '\r'
  | 'e' => some (Char.ofNat 27)
  | ' ' => some ' '
  | '"' => some '"'
  | '\'' => some '\''
  | '/' => some '/'
  | '\\' => some '\\'
  | 'N' => some (Char.ofNat 0x85)
  | '_' => some (Char.ofNat 0xA0)
  | 'L' => some (Char.ofNat 0x2028)
  | 'P' => some (Char.ofNat 0x2029)
  | _ => none

/-- How many hexadecimal digits of a character's code follow a letter behind a
backslash. -/
def codeDigits : Char → Nat
  | 'x' => 2
  | 'u' => 4
  | 'U' => 8
  | _ => 0

/-- The character that hexadecimal digits are the code of. There is none for a code beyond the
last one, or for half of a pair. -/
def ofCode? (digits : List Char) : Option Char :=
  let code := Number.ofDigits 16 digits
  if digits.all (Number.isDigitOf true) ∧ code.isValidChar then some (Char.ofNat code) else none

/-- The text between double quotes, and what follows; the characters start behind
the opening quote. -/
def readDoubleQuoted (chars : List Char) : Option (List Char × List Char) :=
  match chars with
  | [] => none
  | '"' :: rest => some ([], rest)
  | '\\' :: c :: rest => do
    let escaped ← if codeDigits c = 0 then unescape? c else ofCode? (rest.take (codeDigits c))
    let (text, left) ← readDoubleQuoted (rest.drop (codeDigits c))
    some (escaped :: text, left)
  | c :: rest => (readDoubleQuoted rest).map fun (text, left) => (c :: text, left)
termination_by chars.length
decreasing_by
  · simp_wf; omega
  · simp_wf

/-- Plain text up to a comment, or up to a colon that ends a key, and what
follows. The flag says whether a gap stands before the characters. -/
def readPlain (afterGap : Bool) : List Char → List Char × List Char
  | [] => ([], [])
  | c :: rest =>
    if c == '#' && afterGap then ([], c :: rest)
    else if c == ':' && endsKey rest then ([], c :: rest)
    else
      let (text, left) := readPlain (isGap c) rest
      (c :: text, left)

/-- Whether a character has a meaning of its own between brackets. -/
def isFlowMark (c : Char) : Bool :=
  c == ',' || c == '[' || c == ']' || c == '\x7b' || c == '\x7d'

/-- Plain text between brackets, and what follows. It ends at a bracket, a comma, a comment or the
colon behind a key. -/
def readFlowPlain (afterGap : Bool) : List Char → List Char × List Char
  | [] => ([], [])
  | c :: rest =>
    if isFlowMark c then ([], c :: rest)
    else if c == '#' && afterGap then ([], [])
    else if c == ':' && endsKey rest then ([], c :: rest)
    else
      let (text, left) := readFlowPlain (isGap c) rest
      (c :: text, left)

/-- A scalar between brackets or in quotes, whether it was quoted, and what
follows. -/
def readFlowScalar (line : Nat) (chars : List Char) :
    Except Malformed ((List Char × Bool) × List Char) :=
  match chars with
  | '"' :: rest =>
    match readDoubleQuoted rest with
    | some (text, left) => .ok ((text, true), left)
    | none => .error (.unclosedQuote line)
  | '\'' :: rest =>
    match readSingleQuoted rest with
    | some (text, left) => .ok ((text, true), left)
    | none => .error (.unclosedQuote line)
  | _ =>
    let (text, left) := readFlowPlain true chars
    .ok ((trimGap text, false), left)

mutual

/-- A node between brackets and what follows. Every call counts down the fuel; twice
the number of characters is enough. -/
def readFlow (fuel line : Nat) (chars : List Char) : Except Malformed (Document × List Char) :=
  match fuel with
  | 0 => .error (.unclosedFlow line)
  | fuel + 1 =>
    match skipGap chars with
    | '\x7b' :: rest => do
      let (entries, left) ← readFlowEntries fuel line rest
      .ok (.mapping line entries, left)
    | '[' :: rest => do
      let (items, left) ← readFlowItems fuel line rest
      .ok (.sequence line items, left)
    | other => do
      let ((text, quoted), left) ← readFlowScalar line other
      .ok (.scalar ⟨line, Text.ofChars text, quoted⟩, left)

/-- The entries of a mapping in braces, through the closing one. A key without a
colon has an empty value. -/
def readFlowEntries (fuel line : Nat) (chars : List Char) :
    Except Malformed (List (Scalar × Document) × List Char) :=
  match fuel with
  | 0 => .error (.unclosedFlow line)
  | fuel + 1 =>
    match skipGap chars with
    | [] => .error (.unclosedFlow line)
    | '\x7d' :: rest => .ok ([], rest)
    | ',' :: rest => readFlowEntries fuel line rest
    | other => do
      let ((text, quoted), afterKey) ← readFlowScalar line other
      let key : Scalar := ⟨line, Text.ofChars text, quoted⟩
      let (value, afterValue) ←
        match skipGap afterKey with
        | ':' :: rest => readFlow fuel line rest
        | left => .ok (.scalar ⟨line, [], false⟩, left)
      match skipGap afterValue with
      | ',' :: rest => do
        let (entries, left) ← readFlowEntries fuel line rest
        .ok ((key, value) :: entries, left)
      | '\x7d' :: rest => .ok ([(key, value)], rest)
      | _ => .error (.unclosedFlow line)

/-- The items of a sequence in brackets, through the closing one. A scalar with a
value behind a colon is a mapping of that one entry. -/
def readFlowItems (fuel line : Nat) (chars : List Char) :
    Except Malformed (List Document × List Char) :=
  match fuel with
  | 0 => .error (.unclosedFlow line)
  | fuel + 1 =>
    match skipGap chars with
    | [] => .error (.unclosedFlow line)
    | ']' :: rest => .ok ([], rest)
    | ',' :: rest => readFlowItems fuel line rest
    | other => do
      let (node, afterNode) ← readFlow fuel line other
      let (item, afterItem) ←
        match node, skipGap afterNode with
        | .scalar key, ':' :: rest => do
          let (value, left) ← readFlow fuel line rest
          .ok (.mapping line [(key, value)], left)
        | _, left => .ok (node, left)
      match skipGap afterItem with
      | ',' :: rest => do
        let (items, left) ← readFlowItems fuel line rest
        .ok (item :: items, left)
      | ']' :: rest => .ok ([item], rest)
      | _ => .error (.unclosedFlow line)

end

end Astro.Document
