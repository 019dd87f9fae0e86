import Astro.Proofs.Accesses
import Astro.Proofs.Anchors

/-!
# Scanning with a cursor

A text is scanned once more, byte by byte: the cursor is a position in the text, what
stands at it is cut out by its offset, and one or two bytes ahead of it are looked at
before it moves on. Every such access can fail, and the loops are given without a
reason to end.

The cursor always stands between two glyphs of the text. So no access fails and every
loop ends, and the tokens found are those of the text (`tokens?_eq`).
-/

namespace Astro.Checked

/-! ### The cursor -/

/-- The character at the front of a text, and the number of its bytes. The front of no
text is U+FFFD, of no bytes. -/
def decode : Text → Char × Nat
  | [] => (Glyph.replacement, 0)
  | byte :: rest => ((Text.firstGlyph byte rest).value, (Text.firstGlyph byte rest).bytes.length)

/-- A text that is scanned. Readers that go on until a class of characters ends are methods of it.
-/
abbrev Source := Text

section Cursor

variable (source : Source)

/-- The character at an offset. Behind the end of the text that is U+0000. -/
def charAt? (offset : Int) : Option Char :=
  if source.length ≤ offset then some '\x00'
  else do
    let text ← slice? source offset source.length
    some (decode text).1

/-- The character at the cursor. It is the null character at the end of the source. -/
def peek? (place : Position) : Option Char := charAt? source place.offset

/-- The character behind the one at the cursor. The source is decoded from behind the first one. -/
def peekNext? (place : Position) : Option Char :=
  if source.length ≤ place.offset then some '\x00'
  else do
    let text ← slice? source place.offset source.length
    charAt? source (place.offset + (decode text).2)

/-- The character at the cursor, and the cursor behind it. -/
def advance? (place : Position) : Option (Char × Position) := do
  let text ← slice? source place.offset source.length
  let (c, size) := decode text
  if c = '\n' then some (c, ⟨place.offset + size, place.line + 1, 1⟩)
  else some (c, ⟨place.offset + size, place.line, place.column + 1⟩)

/-- The cursor behind all characters of a class. It goes on one character at a time, and there is
a result only if that comes to an end. -/
def Source.advanceWhile? (source : Source) (accepts : Char → Bool) (place : Position) :
    Option Position :=
  if place.offset < source.length then do
    let c ← peek? source place
    if accepts c then do
      let (_, next) ← advance? source place
      source |>.advanceWhile? accepts next
    else some place
  else some place
partial_fixpoint

/-- The cursor behind white space and comments. It goes over one of them at a time, until
something else comes. -/
def Source.skipLayout? (source : Source) (place : Position) : Option Position :=
  if place.offset < source.length then do
    let c ← peek? source place
    if Text.isBlank c then do
      let (_, next) ← advance? source place
      source |>.skipLayout? next
    else if c = '/' then do
      let second ← peekNext? source place
      if second = '/' then do
        let next ← source.advanceWhile? (· != '\n') place
        source |>.skipLayout? next
      else some place
    else some place
  else some place
partial_fixpoint

/-! ### Tokens -/

/-- Whether the byte at an index is there and in a class. -/
def byteIs? (accepts : UInt8 → Bool) (index : Int) : Option Bool :=
  if index < source.length then do
    let byte ← element? source index
    some (accepts byte)
  else some false

/-- Whether the byte is that of a sign. It is a single byte of ASCII. -/
def isSignByte (byte : UInt8) : Bool := byte = 0x2B || byte = 0x2D

/-- Whether the byte is that of a digit. Digits are single bytes of ASCII. -/
def isDigitByte (byte : UInt8) : Bool := 0x30 ≤ byte && byte ≤ 0x39

/-- Whether an exponent is complete behind its mark at the cursor. -/
def exponentFollows? (place : Position) : Option Bool := do
  let signed ← byteIs? source isSignByte (place.offset + 1)
  if signed then byteIs? source isDigitByte (place.offset + 1 + 1)
  else byteIs? source isDigitByte (place.offset + 1)

/-- The cursor behind a point and digits, if they stand there. -/
def skipFraction? (place : Position) : Option Position := do
  let point ← peek? source place
  if point = '.' then do
    let digit ← peekNext? source place
    if digit.isDigit then do
      let (_, next) ← advance? source place
      source.advanceWhile? Char.isDigit next
    else some place
  else some place

/-- The cursor behind a sign, if it stands there. -/
def skipSign? (place : Position) : Option Position := do
  let sign ← peek? source place
  if sign = '+' ∨ sign = '-' then do
    let (_, next) ← advance? source place
    some next
  else some place

/-- The cursor behind an exponent, if it stands there. -/
def skipExponent? (place : Position) : Option Position := do
  let mark ← peek? source place
  if mark = 'e' ∨ mark = 'E' then do
    let complete ← exponentFollows? source place
    if complete then do
      let (_, next) ← advance? source place
      let next ← skipSign? source next
      source.advanceWhile? Char.isDigit next
    else some place
  else some place

/-- A token, what is wrong with it, and the cursor behind it. -/
abbrev Found := Token × Option Diagnostic × Position

/-- The token with the bytes between two places. Its lexeme is sliced out of the source. -/
def spelled? (kind : Text → Token.Kind) (start stop : Position) : Option Found := do
  let lexeme ← slice? source start.offset stop.offset
  some (⟨kind lexeme, lexeme, ⟨start, stop⟩⟩, none, stop)

/-- The numeral that starts at a place. It is the digits, a fraction if there is one, and then an
exponent if there is one. -/
def readNumber? (start : Position) : Option Found := do
  let place ← source.advanceWhile? Char.isDigit start
  let place ← skipFraction? source place
  let place ← skipExponent? source place
  spelled? source (fun _ => .number) start place

/-- Whether a character can stand inside a word. These are letters, digits and the underscore. -/
def continuesWord (c : Char) : Bool := Text.isLetter c || c.isDigit || c == '_'

/-- The word that starts at a place. Its spelling decides whether it is reserved. -/
def readWord? (start : Position) : Option Found := do
  let place ← source.advanceWhile? continuesWord start
  spelled? source .ofWord start place

/-- A token of one character. A character that is no punctuation is illegal. -/
def single (c : Char) (span : Span) : Found :=
  match Token.Kind.ofSymbol? c with
  | some kind => (⟨kind, Text.ofChar c, span⟩, none, span.stop)
  | none =>
    (⟨.illegal, Text.ofChar c, span⟩,
      some ((Problem.unexpectedCharacter (Text.ofChar c)).diagnostic span), span.stop)

/-- The punctuation that starts at a place. Two stars are one token, and any other character is a
token alone. -/
def readSymbol? (start : Position) : Option Found := do
  let (c, place) ← advance? source start
  if c = '*' then do
    let second ← peek? source place
    if second = '*' then do
      let (_, place) ← advance? source place
      some (⟨.power, Text.ofString "**", ⟨start, place⟩⟩, none, place)
    else some (single c ⟨start, place⟩)
  else some (single c ⟨start, place⟩)

/-- The next token from a place on. Its first character decides which reader is called. -/
def nextToken? (place : Position) : Option Found := do
  let start ← source.skipLayout? place
  if source.length ≤ start.offset then some (⟨.endOfInput, [], ⟨start, start⟩⟩, none, start)
  else do
    let c ← peek? source start
    if c.isDigit then readNumber? source start
    else if Text.isLetter c then readWord? source start
    else readSymbol? source start

/-- The tokens from a place on, and what is wrong with them. -/
def Source.tokensFrom? (source : Source) (place : Position) :
    Option (List Token × List Diagnostic) := do
  let (token, problem, next) ← nextToken? source place
  if token.kind = .endOfInput then some ([token], problem.toList)
  else do
    let (tokens, problems) ← source |>.tokensFrom? next
    some (token :: tokens, problem.toList ++ problems)
partial_fixpoint

/-- The tokens of a text, and what is wrong with their characters. -/
def tokens? : Option (List Token × List Diagnostic) :=
  source.tokensFrom? .start

end Cursor

open Source

/-! ### What the cursor finds -/

/-- The character at the front of glyphs. Behind the last one it is the null character, as the
cursor has it. -/
def seen (glyphs : List Glyph) : Char := (glyphs.head?.map Glyph.value).getD '\x00'

variable {source : Text} {front rest back : List Glyph} {first : Glyph}

open Text Position

/-- The offset of the cursor is the number of bytes before it. So indexing by the offset is
cutting the text behind those bytes. -/
theorem offset_eq (front : List Glyph) :
    (start.after front).offset = (ofGlyphs front).length := by
  rw [offset_after]
  exact Int.zero_add _

/-- The text from the cursor on can be cut out, whatever is left of it. The bounds are in order
because no cursor is behind the end. -/
theorem slice?_cursor (reads : source.glyphs = front ++ back) :
    slice? source (start.after front).offset source.length = some (ofGlyphs back) := by
  rw [offset_eq, bytes_of_reads reads]
  exact slice?_behind _ _

/-- The cursor stands before the end of the text exactly when glyphs are left. This is the test
that every loop of the scanner makes before it looks at a character. -/
theorem cursor_lt (reads : source.glyphs = front ++ back) :
    (start.after front).offset < source.length ↔ back ≠ [] := by
  have length := congrArg List.length (bytes_of_reads reads)
  rw [List.length_append] at length
  rw [offset_eq, length]
  cases back with
  | nil => simp [ofGlyphs]
  | cons first rest =>
    have some : 0 < first.bytes.length := List.length_pos_iff.mpr (Glyph.bytes_ne_nil first)
    have longer : (ofGlyphs (first :: rest)).length =
        first.bytes.length + (ofGlyphs rest).length := by
      rw [ofGlyphs, List.flatMap_cons, List.length_append, ← ofGlyphs]
    simp only [ne_eq, reduceCtorEq, not_false_eq_true, iff_true]
    omega

/-- The glyph at the cursor is decoded as it was read. Decoding sees the whole rest of the text,
but it does not look behind the first glyph. -/
theorem decode_cursor (reads : source.glyphs = front ++ first :: rest) :
    decode (ofGlyphs (first :: rest)) = (first.value, first.bytes.length) := by
  have same := glyphs_of_behind reads
  cases bytes : ofGlyphs (first :: rest) with
  | nil =>
    rw [bytes, glyphs] at same
    cases same
  | cons byte more =>
    rw [bytes, glyphs] at same
    obtain ⟨rfl, _⟩ := List.cons.inj same
    rfl

/-- One glyph further, the cursor has taken one step, and the text is split behind that glyph. -/
theorem reads_step (reads : source.glyphs = front ++ first :: rest) :
    source.glyphs = (front ++ [first]) ++ rest := by
  rw [reads, List.append_assoc, List.singleton_append]

/-- The character at the cursor is that of the first glyph left. The access does not fail at the
end of the text, where U+0000 stands for the missing character. -/
theorem charAt?_eq (reads : source.glyphs = front ++ back) :
    charAt? source (start.after front).offset = some (seen back) := by
  have inside := cursor_lt reads
  unfold charAt?
  cases back with
  | nil =>
    rw [if_pos (Int.not_lt.mp fun before => inside.mp before rfl)]
    rfl
  | cons first rest =>
    rw [if_neg (Int.not_le.mpr (inside.mpr (List.cons_ne_nil _ _))), slice?_cursor reads]
    exact congrArg some (congrArg Prod.fst (decode_cursor reads))

/-- To peek is to see the first glyph left, without a step. -/
theorem peek?_eq (reads : source.glyphs = front ++ back) :
    peek? source (start.after front) = some (seen back) := charAt?_eq reads

/-- To peek at the next character is to see the second glyph left. That there is a first one is
not taken for granted: behind the end, both are missing. -/
theorem peekNext?_eq (reads : source.glyphs = front ++ back) :
    peekNext? source (start.after front) = some (seen back.tail) := by
  have inside := cursor_lt reads
  unfold peekNext?
  cases back with
  | nil =>
    rw [if_pos (Int.not_lt.mp fun before => inside.mp before rfl)]
    rfl
  | cons first rest =>
    have moved : (start.after front).offset + (first.bytes.length : Int) =
        (start.after (front ++ [first])).offset := by
      rw [offset_eq, offset_eq, ofGlyphs_concat, List.length_append, Int.natCast_add]
    rw [if_neg (Int.not_le.mpr (inside.mpr (List.cons_ne_nil _ _))), slice?_cursor reads,
      Option.bind_eq_bind, Option.bind_some, decode_cursor reads]
    simp only [moved]
    exact charAt?_eq (reads_step reads)

/-- To go on takes the cursor over the first glyph left, and gives its character. Line and column
follow as they do for any glyph. -/
theorem advance?_eq (reads : source.glyphs = front ++ first :: rest) :
    advance? source (start.after front) = some (first.value, start.after (front ++ [first])) := by
  rw [advance?, slice?_cursor reads, Option.bind_eq_bind, Option.bind_some, decode_cursor reads,
    after_concat, step]
  simp only []
  split <;> rfl

/-- The cursor goes over the longest stretch of characters in a class.

Proof: induction on the glyphs left. Each round of the loop goes over one of them or
stops at it. -/
theorem advanceWhile?_eq (accepts : Char → Bool) (reads : source.glyphs = front ++ back) :
    advanceWhile? source accepts (start.after front) =
      some (start.after (front ++ back.takeWhile fun glyph => accepts glyph.value)) := by
  induction back generalizing front with
  | nil =>
    rw [advanceWhile?, if_neg fun before => (cursor_lt reads).mp before rfl, List.takeWhile_nil,
      List.append_nil]
  | cons first rest shorter =>
    rw [advanceWhile?, if_pos ((cursor_lt reads).mpr (List.cons_ne_nil _ _)), peek?_eq reads,
      Option.bind_eq_bind, Option.bind_some, List.takeWhile_cons]
    change (if accepts first.value = true then _ else _) = _
    by_cases accepted : accepts first.value = true
    · rw [if_pos accepted, if_pos accepted, advance?_eq reads, Option.bind_eq_bind,
        Option.bind_some]
      refine (shorter (reads_step reads)).trans ?_
      rw [List.append_assoc, List.singleton_append]
    · rw [if_neg accepted, if_neg accepted, List.append_nil]

/-! ### Layout -/

open Piece

/-- A character other than U+0000 is seen exactly when the glyphs start with it. -/
theorem seen_eq_iff {glyphs : List Glyph} {c : Char} (known : c ≠ '\x00') :
    seen glyphs = c ↔ startsWith c glyphs = true := by
  cases glyphs with
  | nil => simp [seen, startsWith, known.symm]
  | cons first rest => simp [seen, startsWith]

/-- The cursor goes over a piece of layout as one of the rounds of its loop. A piece of layout is
one blank or a whole comment, and the loop goes over either in one round. -/
theorem skipLayout?_layout (reads : source.glyphs = front ++ first :: rest)
    (layout : kindAt first rest = none) :
    skipLayout? source (start.after front) =
      skipLayout? source (start.after (front ++ first :: rest.take (extent first rest))) := by
  rw [skipLayout?, if_pos ((cursor_lt reads).mpr (List.cons_ne_nil _ _)), peek?_eq reads,
    Option.bind_eq_bind, Option.bind_some]
  change (if isBlankGlyph first = true then _ else if first.value = '/' then _ else _) = _
  unfold extent
  by_cases white : isBlankGlyph first = true
  · rw [if_pos white, if_pos white, advance?_eq reads]
    rfl
  · have comment := (kindAt_eq_none_iff.mp layout).resolve_left white
    have whole : (first :: rest).takeWhile (fun glyph => glyph.value != '\n') =
        first :: rest.take (countWhile (fun glyph => glyph.value != '\n') rest) := by
      rw [List.takeWhile_cons_of_pos (by rw [comment.1]; rfl), take_countWhile]
    have second : seen rest = '/' := (seen_eq_iff (by decide)).mpr comment.2
    rw [if_neg white, if_neg white, if_pos comment.1, if_pos comment, peekNext?_eq reads,
      Option.bind_eq_bind, Option.bind_some, List.tail_cons, if_pos second,
      advanceWhile?_eq _ reads, whole]
    rfl

/-- The cursor stays before a token. Its first glyph is no blank, and it is no slash with another
one behind it. -/
theorem skipLayout?_token {kind : Token.Kind} (reads : source.glyphs = front ++ first :: rest)
    (token : kindAt first rest = some kind) :
    skipLayout? source (start.after front) = some (start.after front) := by
  have visible :
      ¬ (isBlankGlyph first = true ∨ first.value = '/' ∧ startsWith '/' rest = true) := by
    rw [← kindAt_eq_none_iff, token]
    exact Option.some_ne_none kind
  obtain ⟨black, noComment⟩ := not_or.mp visible
  rw [skipLayout?, if_pos ((cursor_lt reads).mpr (List.cons_ne_nil _ _)), peek?_eq reads,
    Option.bind_eq_bind, Option.bind_some]
  change (if isBlankGlyph first = true then _ else if first.value = '/' then _ else _) = _
  rw [if_neg black]
  split
  · next slash =>
    have other : seen rest ≠ '/' := fun second =>
      noComment ⟨slash, (seen_eq_iff (by decide)).mp second⟩
    rw [peekNext?_eq reads, Option.bind_eq_bind, Option.bind_some, List.tail_cons, if_neg other]
  · rfl

/-! ### Numerals -/

/-- A digit is seen exactly when the glyphs start with digits. -/
theorem isDigit_seen (glyphs : List Glyph) :
    (seen glyphs).isDigit = true ↔ 0 < countWhile isDigit glyphs := by
  cases glyphs with
  | nil => simp [seen, countWhile]
  | cons first rest =>
    rw [countWhile, List.takeWhile_cons]
    change isDigit first = true ↔ _
    by_cases digit : isDigit first = true <;> simp [digit]

/-- The cursor goes over the digits at it. It stops at the first glyph that is none, or at the
end. -/
theorem advanceWhile?_digits (reads : source.glyphs = front ++ back) :
    advanceWhile? source Char.isDigit (start.after front) =
      some (start.after (front ++ back.take (countWhile isDigit back))) := by
  rw [advanceWhile?_eq _ reads, take_countWhile]
  rfl

/-- The cursor goes over a point and the digits behind it, as many glyphs as the fraction of a
numeral has. A point without digits is left where it is. -/
theorem skipFraction?_eq (reads : source.glyphs = front ++ back) :
    skipFraction? source (start.after front) =
      some (start.after (front ++ back.take (fractionLength back))) := by
  rw [skipFraction?, peek?_eq reads, Option.bind_eq_bind, Option.bind_some, fractionLength]
  by_cases point : startsWith '.' back = true
  · obtain ⟨rest, rfl⟩ := exists_of_startsWith point (by decide)
    rw [if_pos ((seen_eq_iff (by decide)).mpr point), peekNext?_eq reads, Option.bind_eq_bind,
      Option.bind_some, List.tail_cons]
    by_cases digits : 0 < countWhile isDigit rest
    · rw [if_pos ((isDigit_seen rest).mpr digits), advance?_eq reads, Option.bind_some]
      simp only [List.drop_one, List.tail_cons, point, digits, and_self, ↓reduceIte,
        Nat.add_comm 1, List.take_succ_cons]
      rw [advanceWhile?_digits (reads_step reads), List.append_assoc, List.singleton_append]
    · rw [if_neg fun digit => digits ((isDigit_seen rest).mp digit)]
      simp only [List.drop_one, List.tail_cons, digits, and_false, ↓reduceIte, List.take_zero,
        List.append_nil]
  · rw [if_neg fun seen => point ((seen_eq_iff (by decide)).mp seen)]
    simp only [point, false_and, ↓reduceIte, List.take_zero, List.append_nil, Bool.false_eq_true]

/-- The cursor goes over a sign if there is one, as far as the sign of an exponent goes. The
cursor looks at a single byte for it, and at the end of the source it sees neither sign. -/
theorem skipSign?_eq (reads : source.glyphs = front ++ back) :
    skipSign? source (start.after front) =
      some (start.after (front ++ back.take (signLength back))) := by
  have signs : seen back = '+' ∨ seen back = '-' ↔
      startsWith '+' back = true ∨ startsWith '-' back = true :=
    or_congr (seen_eq_iff (by decide)) (seen_eq_iff (by decide))
  rw [skipSign?, peek?_eq reads, Option.bind_eq_bind, Option.bind_some, signLength]
  simp only [signs]
  split
  · cases back with
    | nil => simp_all [startsWith]
    | cons first rest =>
      rw [advance?_eq reads]
      rfl
  · rw [List.take_zero, List.append_nil]

/-- Whether the byte at the cursor is in a class is decided by the bytes left. At the end of the
text there is none, and the test fails without an access. -/
theorem byteIs?_eq (accepts : UInt8 → Bool) (reads : source.glyphs = front ++ back) :
    byteIs? source accepts (start.after front).offset =
      some ((ofGlyphs back).head?.any accepts) := by
  have inside := cursor_lt reads
  unfold byteIs?
  cases back with
  | nil => rw [if_neg fun before => inside.mp before rfl]; rfl
  | cons first rest =>
    have found := element?_append (ofGlyphs front) (ofGlyphs (first :: rest)) 0
    rw [Nat.add_zero, ← bytes_of_reads reads, ← offset_eq, ← List.head?_eq_getElem?] at found
    rw [if_pos (inside.mpr (List.cons_ne_nil _ _)), found]
    cases bytes : ofGlyphs (first :: rest) with
    | nil =>
      have none := (List.flatMap_eq_nil_iff.mp bytes) first List.mem_cons_self
      exact absurd none (Glyph.bytes_ne_nil first)
    | cons byte more => rfl

/-- A class of characters within ASCII, given by bytes and by characters. -/
structure SameClass (accepts : UInt8 → Bool) (holds : Char → Bool) : Prop where
  narrow : ∀ code < 0x80, accepts (UInt8.ofNat code) = holds (Char.ofNat code)
  highByte : ∀ byte : UInt8, 0x80 ≤ byte.toNat → accepts byte = false
  wideChar : ∀ c : Char, 0x80 ≤ c.toNat → holds c = false

/-- A class within ASCII holds of the first byte when it holds of the first glyph.

Proof: a glyph of one byte is that byte. Any other glyph, and any stray byte, starts with a byte
outside of ASCII, and its character is outside as well. -/
theorem SameClass.any_head {accepts : UInt8 → Bool} {holds : Char → Bool}
    (same : SameClass accepts holds) (reads : source.glyphs = front ++ back) :
    (ofGlyphs back).head?.any accepts = back.head?.any fun glyph => holds glyph.value := by
  cases back with
  | nil => rfl
  | cons first rest =>
    have member : first ∈ source.glyphs := by
      rw [reads]
      exact List.mem_append_right front List.mem_cons_self
    have here : ofGlyphs (first :: rest) = first.bytes ++ ofGlyphs rest := rfl
    rw [here]
    cases first with
    | stray byte =>
      have high := same.highByte byte (high_of_stray member)
      have wide := same.wideChar Glyph.replacement (by decide)
      simp [Glyph.bytes, Glyph.value, high, wide]
    | char c =>
      by_cases narrow : c.toNat < 0x80
      · have single : Glyph.bytes (.char c) = [UInt8.ofNat c.toNat] := ofChar_of_narrow narrow
        have decided := same.narrow c.toNat narrow
        rw [Char.ofNat_toNat] at decided
        simp [single, Glyph.value, decided]
      · have wide := same.wideChar c (Nat.le_of_not_lt narrow)
        cases bytes : Glyph.bytes (.char c) with
        | nil => exact absurd bytes (Glyph.bytes_ne_nil _)
        | cons byte more =>
          have inside : byte ∈ Text.ofChar c := by
            rw [Text.ofChar, ← Glyph.bytes, bytes]
            exact List.mem_cons_self
          have high := same.highByte byte (high_of_mem_ofChar (Nat.le_of_not_lt narrow) inside)
          simp [Glyph.value, high, wide]

/-- Signs are told by their byte as well as by their character, because both are in ASCII. -/
theorem sameClass_sign : SameClass isSignByte fun c => c = '+' || c = '-' where
  narrow := by decide
  highByte := by
    intro byte high
    have plus : byte ≠ 0x2B := by rintro rfl; exact absurd high (by decide)
    have minus : byte ≠ 0x2D := by rintro rfl; exact absurd high (by decide)
    simp [isSignByte, plus, minus]
  wideChar := by
    intro c wide
    have plus : c ≠ '+' := by rintro rfl; exact absurd wide (by decide)
    have minus : c ≠ '-' := by rintro rfl; exact absurd wide (by decide)
    simp [plus, minus]

/-- Digits are told by their byte as well as by their character, because all of them are in ASCII.
No byte of a longer character and no character of several bytes is taken for a digit. -/
theorem sameClass_digit : SameClass isDigitByte Char.isDigit where
  narrow := by decide
  highByte := by
    intro byte high
    have above : ¬ byte ≤ 0x39 := by
      rw [UInt8.le_iff_toNat_le]
      exact Nat.not_le.mpr (Nat.lt_of_lt_of_le (by decide) high)
    simp [isDigitByte, above]
  wideChar := by
    intro c wide
    have above : ¬ c.val ≤ 57 := by
      rw [UInt32.le_iff_toNat_le]
      exact Nat.not_le.mpr (Nat.lt_of_lt_of_le (by decide) wide)
    simp [Char.isDigit, above]

/-- The next byte is that of a sign exactly when the glyphs left start with a sign. -/
theorem any_head_sign (reads : source.glyphs = front ++ back) :
    (ofGlyphs back).head?.any isSignByte = true ↔
      startsWith '+' back = true ∨ startsWith '-' back = true := by
  rw [sameClass_sign.any_head reads]
  cases back <;> simp [startsWith]

/-- The next byte is that of a digit exactly when the glyphs left start with a digit. -/
theorem any_head_digit (reads : source.glyphs = front ++ back) :
    (ofGlyphs back).head?.any isDigitByte = true ↔ 0 < countWhile isDigit back := by
  rw [sameClass_digit.any_head reads, ← isDigit_seen]
  cases back <;> simp [seen]

/-- An exponent is found complete exactly when digits stand behind its mark and sign. The scanner
asks this by bytes, before it moves, so that it never has to go back. -/
theorem exponentFollows?_eq (reads : source.glyphs = front ++ first :: rest)
    (narrow : first.bytes.length = 1) :
    ∃ complete, exponentFollows? source (start.after front) = some complete ∧
      (complete = true ↔ 0 < countWhile isDigit (rest.drop (signLength rest))) := by
  have behind := reads_step reads
  have offset : (start.after front).offset + 1 = (start.after (front ++ [first])).offset := by
    rw [offset_eq, offset_eq, ofGlyphs_concat, List.length_append, narrow, Int.natCast_add]
    rfl
  have signed := any_head_sign behind
  rw [exponentFollows?, offset, byteIs?_eq _ behind, Option.bind_eq_bind, Option.bind_some,
    signLength]
  by_cases sign : startsWith '+' rest = true ∨ startsWith '-' rest = true
  · obtain ⟨mark, more, rfl, width⟩ :
        ∃ mark more, rest = mark :: more ∧ mark.bytes.length = 1 := by
      rcases sign with plus | minus
      · obtain ⟨more, rfl⟩ := exists_of_startsWith plus (by decide)
        exact ⟨_, more, rfl, by decide⟩
      · obtain ⟨more, rfl⟩ := exists_of_startsWith minus (by decide)
        exact ⟨_, more, rfl, by decide⟩
    have further : (start.after (front ++ [first])).offset + 1 =
        (start.after (front ++ [first] ++ [mark])).offset := by
      rw [offset_eq, offset_eq, ofGlyphs_concat _ mark, List.length_append, width, Int.natCast_add]
      rfl
    rw [if_pos (signed.mpr sign), if_pos sign, further, byteIs?_eq _ (reads_step behind)]
    exact ⟨_, rfl, any_head_digit (reads_step behind)⟩
  · rw [if_neg fun found => sign (signed.mp found), if_neg sign, byteIs?_eq _ behind]
    exact ⟨_, rfl, any_head_digit behind⟩

/-- An exponent behind its mark is as long as its sign and its digits. Without digits there is no
exponent, and nothing is taken. -/
theorem exponentLength_marked {mark : Glyph}
    (marked : startsWith 'e' (mark :: rest) = true ∨ startsWith 'E' (mark :: rest) = true) :
    exponentLength (mark :: rest) =
      if 0 < countWhile isDigit (rest.drop (signLength rest)) then
        signLength rest + countWhile isDigit (rest.drop (signLength rest)) + 1
      else 0 := by
  have behind : (mark :: rest).drop (1 + signLength rest) = rest.drop (signLength rest) := by
    rw [Nat.add_comm, List.drop_succ_cons]
  simp only [exponentLength, List.drop_one, List.tail_cons, behind, marked, true_and]
  split <;> omega

/-- The cursor goes over an exponent if it is complete, as far as the exponent of a numeral goes.
An incomplete one is left to the tokens that follow. -/
theorem skipExponent?_eq (reads : source.glyphs = front ++ back) :
    skipExponent? source (start.after front) =
      some (start.after (front ++ back.take (exponentLength back))) := by
  have marks : seen back = 'e' ∨ seen back = 'E' ↔
      startsWith 'e' back = true ∨ startsWith 'E' back = true :=
    or_congr (seen_eq_iff (by decide)) (seen_eq_iff (by decide))
  rw [skipExponent?, peek?_eq reads, Option.bind_eq_bind, Option.bind_some]
  by_cases marked : startsWith 'e' back = true ∨ startsWith 'E' back = true
  · obtain ⟨mark, rest, rfl, width⟩ :
        ∃ mark rest, back = mark :: rest ∧ mark.bytes.length = 1 := by
      rcases marked with small | large
      · obtain ⟨rest, rfl⟩ := exists_of_startsWith small (by decide)
        exact ⟨_, rest, rfl, by decide⟩
      · obtain ⟨rest, rfl⟩ := exists_of_startsWith large (by decide)
        exact ⟨_, rest, rfl, by decide⟩
    obtain ⟨complete, follows, digits⟩ := exponentFollows?_eq reads width
    have behind := reads_step reads
    have beyond : source.glyphs =
        (front ++ [mark] ++ rest.take (signLength rest)) ++ rest.drop (signLength rest) := by
      rw [List.append_assoc, List.take_append_drop, behind]
    rw [if_pos (marks.mpr marked), follows, Option.bind_eq_bind, Option.bind_some,
      exponentLength_marked marked]
    cases complete with
    | true =>
      rw [if_pos rfl, if_pos (digits.mp rfl), advance?_eq reads]
      change Option.bind (skipSign? source (start.after (front ++ [mark]))) _ = _
      rw [skipSign?_eq behind, Option.bind_some, advanceWhile?_digits beyond, List.take_succ_cons,
        List.take_add]
      simp only [List.append_assoc, List.cons_append, List.nil_append]
    | false =>
      have none : ¬ 0 < countWhile isDigit (rest.drop (signLength rest)) := fun some =>
        Bool.false_ne_true (digits.mpr some)
      rw [if_neg Bool.false_ne_true, if_neg none, List.take_zero, List.append_nil]
  · have none : exponentLength back = 0 := by
      simp only [exponentLength, marked, false_and, ↓reduceIte]
    rw [if_neg fun found => marked (marks.mp found), none, List.take_zero, List.append_nil]

/-! ### Tokens found -/

/-- What is wrong with a token by itself. Only a character that starts no token is. -/
def wrong (token : Token) : Option Diagnostic :=
  if token.kind = .illegal then
    some ((Problem.unexpectedCharacter token.lexeme).diagnostic token.span)
  else none

/-- A token as it is found, with the cursor behind it. -/
def found (token : Token) : Found := (token, wrong token, token.span.stop)

/-- The token that a piece is, behind the glyphs `front`. -/
def tokenOf (front : List Glyph) (kind : Token.Kind) (glyphs : List Glyph) : Token :=
  ⟨kind, Text.ofChars (glyphs.map Glyph.value), ⟨start.after front, start.after (front ++ glyphs)⟩⟩

/-- The bytes between two places of the cursor can be cut out, and they are the lexeme of the
token, provided that its glyphs are whole characters. -/
theorem spelled?_eq (spelling : Text → Token.Kind) {middle : List Glyph}
    (reads : source.glyphs = front ++ middle ++ back) (whole : ∀ glyph ∈ middle, Whole glyph)
    (legal : spelling (ofGlyphs middle) ≠ .illegal) :
    spelled? source spelling (start.after front) (start.after (front ++ middle)) =
      some (found (tokenOf front (spelling (ofGlyphs middle)) middle)) := by
  have bytes : source = ofGlyphs front ++ ofGlyphs middle ++ ofGlyphs back := by
    rw [← ofGlyphs_append]
    exact bytes_of_reads reads
  have cut : slice? source (start.after front).offset (start.after (front ++ middle)).offset =
      some (ofGlyphs middle) := by
    rw [offset_eq, offset_eq, ofGlyphs_append, bytes]
    exact slice?_append _ _ _
  have lexeme : Text.ofChars (middle.map Glyph.value) = ofGlyphs middle :=
    @lexeme_eq_ofGlyphs ⟨none, middle⟩ whole
  rw [spelled?, cut, tokenOf, lexeme, found, wrong, if_neg legal]
  rfl

/-- A token that starts with a character that it keeps has whole glyphs. Only an illegal token can
hold a stray byte, and then it holds nothing else. -/
theorem whole_of_kindAt {kind : Token.Kind} (token : kindAt first rest = some kind)
    (legal : kind ≠ .illegal) :
    ∀ glyph ∈ first :: rest.take (extent first rest), Whole glyph := by
  have decided := isCut first rest
  rw [token] at decided
  cases first with
  | stray byte => exact absurd (Option.some.inj decided.stray.1) legal
  | char c => exact decided.whole

/-- The text goes on behind the glyphs of a token, as many as its extent says. -/
theorem reads_token (reads : source.glyphs = front ++ first :: rest) (length : Nat) :
    source.glyphs = front ++ first :: rest.take length ++ rest.drop length := by
  rw [List.append_assoc, List.cons_append, List.take_append_drop, reads]

/-- Two stretches behind a glyph are one. The second starts where the first one stops. -/
theorem take_stretch (front rest : List Glyph) (first : Glyph) (length more : Nat) :
    front ++ first :: rest.take length ++ (rest.drop length).take more =
      front ++ first :: rest.take (length + more) := by
  rw [List.append_assoc, List.cons_append, ← List.take_add]

/-- A numeral is read from its first digit on, through fraction and exponent, and its token is the
one that the cut of the text gives. -/
theorem readNumber?_eq (reads : source.glyphs = front ++ first :: rest)
    (token : kindAt first rest = some .number) (digit : isDigit first = true)
    (length : extent first rest = numeralLength rest) :
    readNumber? source (start.after front) =
      some (found (tokenOf front .number (first :: rest.take (extent first rest)))) := by
  have whole := whole_of_kindAt token (by decide)
  rw [length] at whole ⊢
  have digits : (first :: rest).take (countWhile isDigit (first :: rest)) =
      first :: rest.take (countWhile isDigit rest) := by
    rw [take_countWhile, List.takeWhile_cons_of_pos digit, take_countWhile]
  rw [readNumber?, advanceWhile?_digits reads, digits, Option.bind_eq_bind, Option.bind_some,
    skipFraction?_eq (reads_token reads _), take_stretch, Option.bind_some,
    skipExponent?_eq (reads_token reads _), take_stretch, Option.bind_some]
  exact spelled?_eq _ (reads_token reads (numeralLength rest)) whole (by decide)

/-- A word is read from its first letter on, as far as characters go on with it, and its token is
the one that the cut of the text gives. -/
theorem readWord?_eq {kind : Token.Kind} (reads : source.glyphs = front ++ first :: rest)
    (token : kindAt first rest = some kind) (starts : startsWord first = true)
    (length : extent first rest = countWhile Piece.continuesWord rest)
    (word : kind = .ofWord (ofGlyphs (first :: rest.take (extent first rest)))) :
    readWord? source (start.after front) =
      some (found (tokenOf front kind (first :: rest.take (extent first rest)))) := by
  have legal :
      Token.Kind.ofWord (ofGlyphs (first :: rest.take (extent first rest))) ≠ .illegal := by
    unfold Token.Kind.ofWord
    split <;> decide
  have whole := whole_of_kindAt token (word ▸ legal)
  have stretch : (first :: rest).takeWhile (fun glyph => continuesWord glyph.value) =
      first :: rest.take (extent first rest) := by
    have inside : continuesWord first.value = true := by
      have letter : Text.isLetter first.value = true := starts
      simp [continuesWord, letter]
    rw [List.takeWhile_cons, if_pos inside, length, take_countWhile]
    rfl
  rw [readWord?, advanceWhile?_eq _ reads, Option.bind_eq_bind, Option.bind_some, stretch, word]
  exact spelled?_eq _ (reads_token reads _) whole legal

/-- A token of one character is found as it is, with a diagnostic if no punctuation has this
character. -/
theorem single_eq (front : List Glyph) (first : Glyph) :
    single first.value ⟨start.after front, start.after (front ++ [first])⟩ =
      found (tokenOf front ((Token.Kind.ofSymbol? first.value).getD .illegal) [first]) := by
  have lexeme : Text.ofChars ([first].map Glyph.value) = Text.ofChar first.value :=
    List.append_nil _
  have legal {kind : Token.Kind} (known : Token.Kind.ofSymbol? first.value = some kind) :
      kind ≠ .illegal := by
    unfold Token.Kind.ofSymbol? at known
    split at known <;> cases known <;> decide
  rw [tokenOf, lexeme, single]
  cases known : Token.Kind.ofSymbol? first.value with
  | none => rfl
  | some kind =>
    simp only [Option.getD_some, found, wrong, if_neg (legal known)]

/-- Two stars are read as one token, the power sign. -/
theorem readSymbol?_power (reads : source.glyphs = front ++ .char '*' :: .char '*' :: rest) :
    readSymbol? source (start.after front) =
      some (found (tokenOf front .power [.char '*', .char '*'])) := by
  have behind := reads_step reads
  rw [readSymbol?, advance?_eq reads, Option.bind_eq_bind, Option.bind_some]
  change (if '*' = '*' then Option.bind (peek? source (start.after (front ++ [.char '*']))) _
    else _) = _
  rw [if_pos rfl, peek?_eq behind, Option.bind_some]
  change (if '*' = '*' then Option.bind (advance? source (start.after (front ++ [.char '*']))) _
    else _) = _
  rw [if_pos rfl, advance?_eq behind, Option.bind_some, List.append_assoc]
  rfl

/-- Any other punctuation is one character, and a star is as well where no second one follows. -/
theorem readSymbol?_single (reads : source.glyphs = front ++ first :: rest)
    (noPower : ¬ (first.value = '*' ∧ startsWith '*' rest = true)) :
    readSymbol? source (start.after front) =
      some (found (tokenOf front ((Token.Kind.ofSymbol? first.value).getD .illegal) [first])) := by
  rw [readSymbol?, advance?_eq reads, Option.bind_eq_bind, Option.bind_some, ← single_eq]
  change (if first.value = '*' then
    Option.bind (peek? source (start.after (front ++ [first]))) _ else _) = _
  split
  · next star =>
    have other : seen rest ≠ '*' := fun second =>
      noPower ⟨star, (seen_eq_iff (by decide)).mp second⟩
    rw [peek?_eq (reads_step reads), Option.bind_some, if_neg other]
  · rfl

/-- The token at the cursor is found.

Proof: the tests on the characters ahead are those that decide the kind of a piece, in
the same order. -/
theorem nextToken?_token {kind : Token.Kind} (reads : source.glyphs = front ++ first :: rest)
    (token : kindAt first rest = some kind) :
    nextToken? source (start.after front) =
      some (found (tokenOf front kind (first :: rest.take (extent first rest)))) := by
  have layout : kindAt first rest ≠ none := by
    rw [token]
    exact Option.some_ne_none kind
  obtain ⟨black, noComment⟩ := not_or.mp (mt kindAt_eq_none_iff.mpr layout)
  rw [nextToken?, skipLayout?_token reads token, Option.bind_eq_bind, Option.bind_some,
    if_neg (Int.not_le.mpr ((cursor_lt reads).mpr (List.cons_ne_nil _ _))), peek?_eq reads,
    Option.bind_eq_bind, Option.bind_some]
  change (if isDigit first = true then _ else if startsWord first = true then _ else _) = _
  by_cases digit : isDigit first = true
  · obtain rfl : kind = .number := by
      rw [kindAt, if_neg black, if_neg noComment, if_pos digit] at token
      exact (Option.some.inj token).symm
    rw [if_pos digit]
    refine readNumber?_eq reads token digit ?_
    rw [extent, if_neg black, if_neg noComment, if_pos digit]
  rw [if_neg digit]
  by_cases starts : startsWord first = true
  · have length : extent first rest = countWhile Piece.continuesWord rest := by
      rw [extent, if_neg black, if_neg noComment, if_neg digit, if_pos starts]
    rw [if_pos starts]
    refine readWord?_eq reads token starts length ?_
    rw [kindAt, if_neg black, if_neg noComment, if_neg digit, if_pos starts, ← length] at token
    exact (Option.some.inj token).symm
  rw [if_neg starts]
  rw [kindAt, if_neg black, if_neg noComment, if_neg digit, if_neg starts] at token
  rw [extent, if_neg black, if_neg noComment, if_neg digit, if_neg starts]
  by_cases power : first.value = '*' ∧ startsWith '*' rest = true
  · obtain ⟨star, again⟩ := power
    obtain rfl := Glyph.eq_char star (by decide)
    obtain ⟨more, rfl⟩ := exists_of_startsWith again (by decide)
    rw [if_pos ⟨star, again⟩] at token ⊢
    cases token
    exact readSymbol?_power reads
  · rw [if_neg power] at token ⊢
    cases token
    exact readSymbol?_single reads power

/-- Behind the last glyph the end of the input is found. Its token is empty and nothing is wrong
with it. -/
theorem nextToken?_end (reads : source.glyphs = front) :
    nextToken? source (start.after front) =
      some (⟨.endOfInput, [], ⟨start.after front, start.after front⟩⟩, none,
        start.after front) := by
  have ended : ¬ (start.after front).offset < source.length := fun before =>
    (cursor_lt (reads.trans (List.append_nil front).symm)).mp before rfl
  rw [nextToken?, skipLayout?, if_neg ended, Option.bind_eq_bind, Option.bind_some,
    if_pos (Int.not_lt.mp ended)]

/-- Layout before the cursor does not matter to the tokens found, since all of it is skipped at
once. -/
theorem tokensFrom?_layout (reads : source.glyphs = front ++ first :: rest)
    (layout : kindAt first rest = none) :
    tokensFrom? source (start.after front) =
      tokensFrom? source (start.after (front ++ first :: rest.take (extent first rest))) := by
  rw [tokensFrom?, tokensFrom?, nextToken?, nextToken?, skipLayout?_layout reads layout]

/-- What is wrong with some tokens is what is wrong with each, in their order. -/
theorem problems_cons (token : Token) (tokens : List Token) :
    Token.problems (token :: tokens) = (wrong token).toList ++ Token.problems tokens := by
  rw [Token.problems, List.filterMap_cons, ← Token.problems]
  unfold wrong
  split <;> simp_all

/-- The tokens from a place on are the one found there and those behind it. Diagnostics are
collected on the way, in the same order. -/
theorem tokensFrom?_found {place : Position} {token : Token} {tokens : List Token}
    (next : nextToken? source place = some (found token)) (going : token.kind ≠ .endOfInput)
    (behind : tokensFrom? source token.span.stop = some (tokens, Token.problems tokens)) :
    tokensFrom? source place = some (token :: tokens, Token.problems (token :: tokens)) := by
  rw [tokensFrom?, next, Option.bind_eq_bind, Option.bind_some]
  change (if token.kind = .endOfInput then _
    else Option.bind (tokensFrom? source token.span.stop) _) = _
  rw [if_neg going, behind, problems_cons]
  rfl

/-- From the cursor on, the tokens found are those of the pieces left.

Proof: induction on the pieces. Layout is gone over, and a token is found and the
cursor stands behind it. -/
theorem tokensFrom?_eq (reads : source.glyphs = front ++ back) :
    tokensFrom? source (start.after front) =
      some (Token.place (start.after front) (cut back),
        Token.problems (Token.place (start.after front) (cut back))) := by
  fun_induction cut back generalizing front with
  | case1 =>
    rw [List.append_nil] at reads
    rw [tokensFrom?, nextToken?_end reads]
    rfl
  | case2 first rest remaining =>
    have further := remaining (reads_token reads (extent first rest))
    cases token : kindAt first rest with
    | none =>
      rw [tokensFrom?_layout reads token, further, Position.after_append]
      rfl
    | some kind =>
      have going : kind ≠ .endOfInput := by
        have decided := isCut first rest
        rw [token] at decided
        exact decided.ne_endOfInput
      have found := tokensFrom?_found (nextToken?_token reads token) going further
      rw [Position.after_append] at found
      rw [found, tokenOf, Position.after_append]
      rfl

/-- Every text can be scanned, and the tokens found are its tokens. No access is out of range, the
loops end, and the diagnostics recorded on the way are those that the tokens themselves show. -/
theorem tokens?_eq (source : Text) :
    tokens? source = some (Token.ofText source, Token.problems (Token.ofText source)) :=
  @tokensFrom?_eq source [] source.glyphs rfl

end Astro.Checked
