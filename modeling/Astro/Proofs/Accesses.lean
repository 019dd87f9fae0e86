import Astro.Diagnostic
import Astro.Proofs.Glyphs
import Astro.Proofs.NumberLayout

/-!
# Accesses that can fail

A program that works with offsets can miss: an index may lie outside of a list, a
slice may end before it starts, and nothing can be repeated less than zero times.
Here such accesses give no result, and neither does anything made with one. The
functions that work with offsets are written a second time over them, step by step,
and shown to give a result on every input, which is what their plain forms give.

This module has excerpts of a source, where the offsets come from a span that may lie
anywhere, and the exponents of numbers. Cursors over texts and tokens follow in
`Astro.Proofs.CursorScan` and `Astro.Proofs.CursorReading`.
-/

namespace Astro.Checked

variable {α : Type}

/-- The element of a list at an index. -/
def element? (list : List α) (index : Int) : Option α :=
  if 0 ≤ index then list[index.toNat]? else none

/-- The elements of a list from one index up to another. -/
def slice? (list : List α) (start stop : Int) : Option (List α) :=
  if 0 ≤ start ∧ start ≤ stop ∧ stop ≤ list.length then
    some ((list.take stop.toNat).drop start.toNat)
  else none

/-- A text several times over. -/
def repeat? (text : Text) (count : Int) : Option Text :=
  if 0 ≤ count then some (List.replicate count.toNat text).flatten else none

/-- An index that is not negative reads the element at its place, or none behind the end of the
list. -/
theorem element?_natCast (list : List α) (index : Nat) :
    element? list (index : Int) = list[index]? := by
  simp [element?]

/-- What stands behind a stretch of a list can be reached by its length. -/
theorem element?_append (front back : List α) (index : Nat) :
    element? (front ++ back) ((front.length + index : Nat) : Int) = back[index]? := by
  rw [element?_natCast, List.getElem?_append_right (Nat.le_add_right _ _), Nat.add_sub_cancel_left]

/-- The stretch between two others is a slice. Its ends are the lengths of what stands before it
and of that with the stretch. -/
theorem slice?_append (front middle back : List α) :
    slice? (front ++ middle ++ back) (front.length : Int) ((front ++ middle).length : Int) =
      some middle := by
  have ordered : 0 ≤ (front.length : Int) ∧ (front.length : Int) ≤ (front ++ middle).length ∧
      ((front ++ middle).length : Int) ≤ (front ++ middle ++ back).length := by
    simp only [List.length_append]
    omega
  rw [slice?, if_pos ordered, Int.toNat_natCast, Int.toNat_natCast, List.take_left, List.drop_left]

/-- Behind the front of a list stands the rest of it. -/
theorem slice?_behind (front back : List α) :
    slice? (front ++ back) (front.length : Int) ((front ++ back).length : Int) = some back := by
  have whole := slice?_append front back []
  rwa [List.append_nil] at whole

/-- Up to an index stands what is taken so far. -/
theorem slice?_take {list : List α} {stop : Nat} (within : stop ≤ list.length) :
    slice? list 0 (stop : Int) = some (list.take stop) := by
  rw [slice?, if_pos (by omega)]
  rfl

/-- From an index on stands what is left. The end of the list is a valid end of a slice. -/
theorem slice?_drop {list : List α} {start : Nat} (within : start ≤ list.length) :
    slice? list (start : Int) (list.length : Int) = some (list.drop start) := by
  rw [slice?, if_pos (by omega), Int.toNat_natCast, Int.toNat_natCast, List.take_length]

/-! ### Lines -/

/-- The index of the first newline of a text, or −1. -/
def firstNewline (text : Text) : Int :=
  if Text.newline ∈ text then (text.idxOf Text.newline : Int) else -1

/-- The index of the last newline of a text, or −1. -/
def lastNewline (text : Text) : Int :=
  if Text.newline ∈ text then (text.length - 1 - text.reverse.idxOf Text.newline : Int) else -1

/-- What stands before the first newline. -/
def firstLine? (text : Text) : Option Text :=
  if firstNewline text < 0 then some text else slice? text 0 (firstNewline text)

/-- What stands behind the last newline. Where there is none, the index behind −1 is
that of the first byte. -/
def lastLine? (text : Text) : Option Text := slice? text (lastNewline text + 1) text.length

/-- The bytes up to the first newline are as many as its index says. -/
theorem take_idxOf (text : Text) :
    text.take (text.idxOf Text.newline) = text.takeWhile (· != Text.newline) := by
  rw [List.takeWhile_eq_take_findIdx_not]
  simp only [List.idxOf, bne, Bool.not_not]

/-- The first line is cut off without a slice out of range, whether a newline ends it or the text
does. -/
theorem firstLine?_eq (text : Text) : firstLine? text = some text.firstLine := by
  unfold firstLine? firstNewline
  by_cases some : Text.newline ∈ text
  · have within : text.idxOf Text.newline ≤ text.length :=
      Nat.le_of_lt (List.idxOf_lt_length_iff.mpr some)
    rw [if_pos some, if_neg (by omega), slice?_take within, take_idxOf, Text.firstLine]
  · have all : text.takeWhile (· != Text.newline) = text := by
      refine List.takeWhile_eq_self_iff.mpr fun byte member => ?_
      have differs : byte ≠ Text.newline := by
        rintro rfl
        exact some member
      simpa using differs
    rw [if_neg some, if_pos (by decide), Text.firstLine, all]

/-- Nor is there a slice out of range in cutting off the last line, also of a text that ends with
a newline. -/
theorem lastLine?_eq (text : Text) : lastLine? text = some text.lastLine := by
  unfold lastLine? lastNewline
  have bytes : text.lastLine = text.drop (text.length - text.reverse.idxOf Text.newline) := by
    rw [Text.lastLine, ← take_idxOf, List.take_reverse, List.reverse_reverse]
  by_cases some : Text.newline ∈ text
  · have within : text.reverse.idxOf Text.newline < text.length := by
      rw [← List.length_reverse]
      exact List.idxOf_lt_length_iff.mpr (List.mem_reverse.mpr some)
    have index : (text.length - 1 - text.reverse.idxOf Text.newline + 1 : Int) =
        ((text.length - text.reverse.idxOf Text.newline : Nat) : Int) := by
      omega
    rw [if_pos some, index, slice?_drop (Nat.sub_le _ _), bytes]
  · have absent : Text.newline ∉ text.reverse := fun member => some (List.mem_reverse.mp member)
    have none : text.reverse.idxOf Text.newline = text.length := by
      rw [List.idxOf_eq_length absent, List.length_reverse]
    rw [if_neg some, bytes, none, Nat.sub_self]
    exact slice?_drop (Nat.zero_le _)

/-! ### Excerpts -/

/-- A diagnostic with its source, cut out of it by the offsets of its span. -/
def excerpt? (diagnostic : Diagnostic) (name source : Text) (color : Bool) : Option Text :=
  let start := diagnostic.span.start.offset
  let stop := diagnostic.span.stop.offset
  if start < 0 ∨ source.length < start ∨ stop < start then
    some (name ++ Text.ofString ", invalid position " ++ Text.ofInt start ++ Text.ofString "-" ++
      Text.ofInt stop ++ Text.ofString ": " ++ diagnostic.message)
  else do
    let stop := if source.length < stop then (source.length : Int) else stop
    let lead ← lastLine? (← slice? source 0 start)
    let line := lead ++ (← firstLine? (← slice? source start source.length))
    let culprit ← firstLine? (← slice? source start stop)
    let tail ← slice? line (lead.length + culprit.length) line.length
    let shown :=
      if color ∧ culprit ≠ [] then
        lead ++ Text.ofString "\x1b[1;4m" ++ culprit ++ Text.ofString "\x1b[m" ++ tail
      else line
    let width : Int := if culprit.width = 0 then 1 else culprit.width
    let markers ← repeat? (Text.ofString "^") width
    some (name ++ Text.ofString ", line " ++ Text.ofInt diagnostic.span.start.line ++
      Text.ofString ": " ++ diagnostic.message ++ Text.ofString "\n" ++ shown ++
      Text.ofString "\n" ++ (Diagnostic.indentLike lead ++ markers) ++
      (match diagnostic.hint with
        | none => []
        | some hint => Text.ofString "\nhint: " ++ hint))

/-- The first line of a beginning of a text is a beginning of its first line. -/
theorem firstLine_take (text : Text) (count : Nat) :
    Text.firstLine (text.take count) <+: Text.firstLine text := by
  induction text generalizing count with
  | nil => simp
  | cons byte rest shorter =>
    cases count with
    | zero => exact List.nil_prefix
    | succ count =>
      simp only [Text.firstLine, List.take_succ_cons, List.takeWhile_cons]
      split
      · exact (List.prefix_cons_inj byte).mpr (shorter count)
      · exact List.prefix_refl _

/-- The culprit stands at the front of the rest of its line. -/
theorem culprit_begins_trail (diagnostic : Diagnostic) (source : Text) :
    diagnostic.culprit source <+: diagnostic.trail source :=
  firstLine_take _ _

/-- Markers are as many as the culprit is wide, and at least one. -/
theorem repeat?_markers (width : Nat) :
    repeat? (Text.ofString "^") (if width = 0 then 1 else (width : Int)) =
      some ((List.replicate (max 1 width) '^').flatMap Text.ofChar) := by
  have count : (if width = 0 then 1 else (width : Int)) = (max 1 width : Nat) := by
    split <;> omega
  have mark : Text.ofString "^" = Text.ofChar '^' := by decide
  rw [count, repeat?, if_pos (Int.natCast_nonneg _), Int.toNat_natCast, mark, List.flatMap_def,
    List.map_replicate]

/-- The bytes from an offset inside a text up to one behind it, which may lie outside. -/
theorem slice?_clamped {source : Text} {start stop : Int} (low : 0 ≤ start)
    (within : start ≤ source.length) (ordered : start ≤ stop) :
    slice? source start (if source.length < stop then (source.length : Int) else stop) =
      some ((source.drop start.toNat).take (stop.toNat - start.toNat)) := by
  split
  · next beyond =>
    rw [slice?, if_pos ⟨low, within, Int.le_refl _⟩, Int.toNat_natCast, List.take_length,
      List.take_of_length_le (by rw [List.length_drop]; omega)]
  · next inside =>
    rw [slice?, if_pos ⟨low, ordered, by omega⟩, List.drop_take]

/-- An excerpt can be made of every source at every span, and it is the one that is shown.

Proof: a span that does not point into the source gives no excerpt and no access. Any other one
cuts the source in slices that lie inside it, and the markers are at least one. -/
theorem excerpt?_eq (diagnostic : Diagnostic) (name source : Text) (color : Bool) :
    excerpt? diagnostic name source color = some (diagnostic.excerpt name source color) := by
  unfold excerpt? Diagnostic.excerpt
  by_cases inside : diagnostic.pointsInto source.length = true
  · have bounds : 0 ≤ diagnostic.span.start.offset ∧
        diagnostic.span.start.offset ≤ source.length ∧
        diagnostic.span.start.offset ≤ diagnostic.span.stop.offset := by
      simpa [Diagnostic.pointsInto] using inside
    obtain ⟨low, within, ordered⟩ := bounds
    obtain ⟨start, offset⟩ := Int.eq_ofNat_of_zero_le low
    have lead : slice? source 0 diagnostic.span.start.offset = some (source.take start) := by
      rw [offset]
      exact slice?_take (by omega)
    have trail : slice? source diagnostic.span.start.offset source.length =
        some (source.drop start) := by
      rw [offset]
      exact slice?_drop (by omega)
    have tail : slice? (diagnostic.lead source ++ diagnostic.trail source)
        ((diagnostic.lead source).length + (diagnostic.culprit source).length)
        (diagnostic.lead source ++ diagnostic.trail source).length =
          some ((diagnostic.trail source).drop (diagnostic.culprit source).length) := by
      have fits := (culprit_begins_trail diagnostic source).length_le
      rw [← Int.natCast_add, slice?_drop (by rw [List.length_append]; omega), List.drop_append,
        List.drop_of_length_le (Nat.le_add_right _ _), List.nil_append, Nat.add_sub_cancel_left]
    have index : start = diagnostic.span.start.offset.toNat := by omega
    rw [if_neg (by omega), if_pos inside]
    simp only [Option.bind_eq_bind, Option.bind_some, lead, trail,
      slice?_clamped low within ordered, lastLine?_eq, firstLine?_eq, index]
    change Option.bind (slice? (diagnostic.lead source ++ diagnostic.trail source)
      ((diagnostic.lead source).length + (diagnostic.culprit source).length)
      (diagnostic.lead source ++ diagnostic.trail source).length) _ = _
    rw [tail, Option.bind_some]
    change Option.bind (repeat? (Text.ofString "^")
      (if (diagnostic.culprit source).width = 0 then 1
        else ((diagnostic.culprit source).width : Int))) _ = _
    rw [repeat?_markers, Option.bind_some]
    rfl
  · have outside : diagnostic.span.start.offset < 0 ∨
        source.length < diagnostic.span.start.offset ∨
        diagnostic.span.stop.offset < diagnostic.span.start.offset := by
      simp only [Diagnostic.pointsInto, decide_eq_true_eq] at inside
      omega
    rw [if_pos outside, if_neg inside]

/-! ### Exponents -/

/-- The byte that marks an exponent. -/
def exponentMark : UInt8 := 0x65

/-- The byte of the digit zero. -/
def zeroDigit : UInt8 := 0x30

/-- Digits without the zeros before them; one is left of zeros alone. -/
def trimZeros (digits : Text) : Text :=
  let trimmed := digits.dropWhile (· == zeroDigit)
  if trimmed = [] then [zeroDigit] else trimmed

/-- A number in exponent form, with the zeros before its exponent taken away. The text
is cut behind the first mark; where there is none, nothing is left to take a sign from. -/
def trimExponent? (text : Text) : Option Text := do
  let mantissa := text.takeWhile (· != exponentMark)
  let exponent := (text.dropWhile (· != exponentMark)).drop 1
  let sign ← element? exponent 0
  let digits ← slice? exponent 1 exponent.length
  some (mantissa ++ exponentMark :: sign :: trimZeros digits)

/-- A number as programs write it, by way of the exponent form with two digits. -/
def format? (value : Float) : Option Text :=
  match Number.parts value with
  | .nan => some (Text.ofString "NaN")
  | .infinite negative => some (Text.ofString (if negative then "-Infinity" else "Infinity"))
  | .finite negative mantissa exponent =>
    let sign := if negative then ['-'] else []
    if mantissa = 0 then some (Text.ofChars (sign ++ ['0']))
    else
      let decimal := Number.shortest mantissa exponent
      if -6 ≤ decimal.order ∧ decimal.order ≤ 20 then
        some (Text.ofChars (sign ++ Number.Layout.positional decimal.digits decimal.order))
      else
        trimExponent? (Text.ofChars (sign ++
          Number.Layout.scientific 2 decimal.digits decimal.order))

/-- The parts of a number in exponent form. The mark stands behind its mantissa, which has none
itself. -/
structure ExponentForm where
  mantissa : Text
  sign : UInt8
  digits : Text
  unmarked : exponentMark ∉ mantissa

/-- A number in exponent form: a mantissa, the mark, a sign and digits. -/
def ExponentForm.text (form : ExponentForm) : Text :=
  form.mantissa ++ exponentMark :: form.sign :: form.digits

/-- Every number in exponent form has an exponent to trim. The mark is found at its place, because
none stands in the mantissa, and behind it the sign is always there to be kept. -/
theorem trimExponent?_eq (form : ExponentForm) :
    trimExponent? form.text =
      some (form.mantissa ++ exponentMark :: form.sign :: trimZeros form.digits) := by
  obtain ⟨mantissa, sign, digits, unmarked⟩ := form
  have plain : ∀ byte ∈ mantissa, (byte != exponentMark) = true := by
    intro byte member
    have differs : byte ≠ exponentMark := by
      rintro rfl
      exact unmarked member
    simpa using differs
  have front : (mantissa ++ exponentMark :: sign :: digits).takeWhile (· != exponentMark) =
      mantissa := by
    rw [List.takeWhile_append_of_pos plain]
    simp
  have behind :
      ((mantissa ++ exponentMark :: sign :: digits).dropWhile (· != exponentMark)).drop 1 =
        sign :: digits := by
    rw [List.dropWhile_append_of_pos plain]
    simp
  have rest : slice? (sign :: digits) 1 (sign :: digits).length = some digits :=
    slice?_behind [sign] digits
  rw [trimExponent?, ExponentForm.text]
  simp only [front, behind, rest]
  rfl

/-- The byte of a narrow character tells it apart. Codes below a hundred and twenty-eight fit into
a byte. -/
theorem byte_inj {first second : Char} (narrow : first.toNat < 0x80) (other : second.toNat < 0x80)
    (same : UInt8.ofNat first.toNat = UInt8.ofNat second.toNat) : first = second := by
  have codes := congrArg UInt8.toNat same
  rw [UInt8.toNat_ofNat', UInt8.toNat_ofNat'] at codes
  exact Char.toNat_inj.mp (by omega)

/-- Narrow characters are one byte each. The byte is the character's code. -/
theorem ofChars_eq_map {cs : List Char} (narrow : ∀ c ∈ cs, c.toNat < 0x80) :
    Text.ofChars cs = cs.map fun c => UInt8.ofNat c.toNat := by
  induction cs with
  | nil => rfl
  | cons first rest others =>
    obtain ⟨here, later⟩ := List.forall_mem_cons.mp narrow
    rw [Text.ofChars, List.flatMap_cons, Text.ofChar_of_narrow here, ← Text.ofChars, others later]
    rfl

/-- A mantissa does not hold the mark of an exponent. -/
theorem unmarked_of_inMantissa {cs : List Char} (inside : ∀ c ∈ cs, Number.InMantissa c) :
    exponentMark ∉ Text.ofChars cs := by
  rw [ofChars_eq_map fun c member => (inside c member).narrow.1]
  intro marked
  obtain ⟨c, member, same⟩ := List.mem_map.mp marked
  exact (inside c member).narrow.2 (byte_inj (inside c member).narrow.1 (by decide) same)

/-- Zeros before digits are trimmed. Trimming goes on until something else comes. -/
theorem trimZeros_zeros (count : Nat) (digits : Text) :
    trimZeros (List.replicate count zeroDigit ++ digits) = trimZeros digits := by
  have zeros : ∀ byte ∈ List.replicate count zeroDigit, (byte == zeroDigit) = true := by
    intro byte member
    simpa using List.eq_of_mem_replicate member
  rw [trimZeros, List.dropWhile_append_of_pos zeros, trimZeros]

/-- The digits of a number have no zeros before them. Zero itself is trimmed to a single digit
again. -/
theorem trimZeros_toDigits (n : Nat) :
    trimZeros (Text.ofChars (Nat.toDigits 10 n)) = Text.ofChars (Nat.toDigits 10 n) := by
  rcases Nat.eq_zero_or_pos n with rfl | positive
  · decide
  · have digits : ∀ c ∈ Nat.toDigits 10 n, c.toNat < 0x80 := fun c member =>
      (Number.InMantissa.narrow (.inl (Nat.isDigit_of_mem_toDigits (by decide) (by decide) member))).1
    rw [ofChars_eq_map digits]
    have other := Number.head_toDigits positive
    cases split : Nat.toDigits 10 n with
    | nil => exact absurd split (List.ne_nil_of_length_pos Nat.length_toDigits_pos)
    | cons first rest =>
      rw [split] at other digits
      have differs : (UInt8.ofNat first.toNat == zeroDigit) = false := by
        refine beq_eq_false_iff_ne.mpr fun same => other ?_
        rw [byte_inj (digits first List.mem_cons_self) (show '0'.toNat < 0x80 by decide) same]
        rfl
      simp [trimZeros, differs]

/-- The bytes of a mantissa, the mark, a sign, zeros and digits. -/
theorem ofChars_scientific (mantissa : List Char) {sign : Char} (narrow : sign.toNat < 0x80)
    (count : Nat) (digits : List Char) :
    Text.ofChars (mantissa ++ 'e' :: sign :: (Number.Layout.zeros count ++ digits)) =
      Text.ofChars mantissa ++ exponentMark :: UInt8.ofNat sign.toNat ::
        (List.replicate count zeroDigit ++ Text.ofChars digits) := by
  have zeros : Text.ofChars (Number.Layout.zeros count) = List.replicate count zeroDigit := by
    induction count with
    | zero => rfl
    | succ count fewer =>
      rw [List.replicate_succ, ← fewer]
      rfl
  have mark : Text.ofChar 'e' = [exponentMark] := by decide
  rw [← zeros]
  simp only [Text.ofChars, List.flatMap_append, List.flatMap_cons, mark,
    Text.ofChar_of_narrow narrow, List.cons_append, List.nil_append]

/-- Trimming the exponent form with two digits gives the one with as few as possible. -/
theorem trimExponent?_scientific {front digits : List Char} (signed : ∀ c ∈ front, Number.InMantissa c)
    (digital : ∀ c ∈ digits, c.isDigit = true) (order : Int) :
    trimExponent? (Text.ofChars (front ++ Number.Layout.scientific 2 digits order)) =
      some (Text.ofChars (front ++ Number.Layout.scientific 1 digits order)) := by
  obtain ⟨mantissa, sign, inside, narrow, form⟩ := Number.exists_scientific digital order
  have unmarked : exponentMark ∉ Text.ofChars (front ++ mantissa) :=
    unmarked_of_inMantissa (List.forall_mem_append.mpr ⟨signed, inside⟩)
  have enough : 1 - (Nat.toDigits 10 order.natAbs).length = 0 :=
    Nat.sub_eq_zero_of_le Nat.length_toDigits_pos
  rw [form, form, ← List.append_assoc, ← List.append_assoc, ofChars_scientific _ narrow,
    ofChars_scientific _ narrow]
  refine (trimExponent?_eq ⟨_, _, _, unmarked⟩).trans ?_
  rw [trimZeros_zeros, trimZeros_toDigits, enough]
  rfl

/-- Every number can be written by way of its exponent form, and is written as ever.

Proof: by the parts of the number. What has no exponent form is written at once, and the exponent
of any other number is trimmed behind its mark. -/
theorem format?_eq (value : Float) : format? value = some (Number.format value) := by
  unfold format?
  cases finite : Number.parts value with
  | nan =>
    unfold Number.format
    rw [finite]
  | infinite negative =>
    unfold Number.format
    rw [finite]
  | finite negative mantissa exponent =>
    by_cases zero : mantissa = 0
    · unfold Number.format
      simp only [finite, zero, ↓reduceIte]
    · have signed : ∀ c ∈ (if negative then ['-'] else []), Number.InMantissa c := by
        cases negative <;> simp [Number.InMantissa]
      have digital : ∀ c ∈ (Number.shortest mantissa exponent).digits, c.isDigit = true :=
        fun _ => (Number.shortest mantissa exponent).isDigit_of_mem_digits
      rw [Number.format_of_finite finite (Nat.pos_of_ne_zero zero)]
      simp only [zero, ↓reduceIte]
      by_cases plain : -6 ≤ (Number.shortest mantissa exponent).order ∧
          (Number.shortest mantissa exponent).order ≤ 20
      · simp only [plain, and_self, ↓reduceIte]
      · simp only [plain, ↓reduceIte]
        exact trimExponent?_scientific signed digital _

end Astro.Checked
