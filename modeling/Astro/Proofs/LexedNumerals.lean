import Astro.Proofs.Complaints
import Astro.Proofs.NumeralReading
import Astro.Proofs.Recovery

/-!
# Numerals that are scanned are read

The scanner takes fewer words for numerals than the reader of numbers does: no sign, no
underscore, no other base and no name of a value. So each word that it takes denotes a
number, whatever its length, and none is refused as malformed. The value is never what is
not a number and never negative; out of range it is zero or infinite.
-/

namespace Astro

namespace Number

/-- The magnitude bits of a fraction do not exceed those of infinity, because rounding stops
there. -/
theorem decimalMagnitude_le (mantissa : Nat) (exponent : Int) :
    decimalMagnitude mantissa exponent ≤ infinityBits := by
  unfold decimalMagnitude scaledMagnitude
  split
  · exact Nat.zero_le _
  split
  · exact Nat.le_refl _
  · dsimp only [magnitude]
    split
    · exact Nat.zero_le _
    · exact Nat.min_le_left _ _

/-- Nor do the magnitude bits that digits settle by their leading ones, or else those of the
digits told apart. -/
theorem magnitude_le (digits : List Char) (point other : Int) :
    (leadingMagnitude? digits point).getD (distinctMagnitude digits other) ≤ infinityBits := by
  unfold leadingMagnitude? distinctMagnitude
  dsimp only
  split
  · exact decimalMagnitude_le _ _
  · exact decimalMagnitude_le _ _

/-- Magnitude bits up to those of infinity make up a number without a sign. The sign bit lies
above them, and a double that is not a number has magnitude bits beyond those of infinity. -/
theorem unsigned_ofMagnitude {bits : Nat} (most : bits ≤ infinityBits) :
    (ofMagnitude false bits).isNaN = false ∧ isNegative (ofMagnitude false bits) = false := by
  have stored : (ofMagnitude false bits).toBits.toNat = bits := by
    rw [toBits_ofMagnitude false most]
    exact Nat.zero_add bits
  have top : infinityBits = 2047 * 2 ^ 52 := rfl
  constructor
  · by_contra notNumber
    have nan := (isNaN_iff_parts _).mp (by simpa using notNumber)
    unfold parts at nan
    simp only [stored, Nat.pow_eq] at nan
    split at nan
    · split at nan
      · cases nan
      · omega
    · split at nan <;> cases nan
  · rw [isNegative, stored]
    apply decide_eq_false
    simp only [Nat.pow_eq]
    omega

end Number

namespace Numeral

variable {whole fraction exponent : List Char}

/-- The characters of words that the scanner takes for numerals are digits, a point, marks of
exponents and signs. -/
theorem mem_parts (digits : Digits whole) (fractional : Fraction fraction)
    (scaled : Exponent exponent) {c : Char} (member : c ∈ whole ++ fraction ++ exponent) :
    c.isDigit = true ∨ c ∈ ['.', 'e', 'E', '+', '-'] := by
  rcases List.mem_append.mp member with mantissa | behind
  · rcases List.mem_append.mp mantissa with integer | point
    · exact .inl (digits.2 c integer)
    · rcases fractional with rfl | ⟨others, rfl, -, all⟩
      · cases point
      · rcases List.mem_cons.mp point with rfl | later
        · simp
        · exact .inl (all c later)
  · rcases scaled with rfl | ⟨mark, sign, others, rfl, marked, signed, -, all⟩
    · cases behind
    · rcases List.mem_cons.mp behind with rfl | behind
      · rcases marked with rfl | rfl <;> simp
      rcases List.mem_append.mp behind with sign | later
      · rcases signed with rfl | rfl | rfl <;> simp_all
      · exact .inl (all c later)

/-- An exponent is read to its end, however many digits it has. Its mark may be a capital letter,
which the reader lowers, and the sign may be left out. -/
theorem exists_order (scaled : Exponent exponent) (written : exponent ≠ []) :
    ∃ order, Number.readExponent? 'e' exponent = some order := by
  rcases scaled with rfl | ⟨mark, sign, digits, rfl, marked, signed, nonempty, all⟩
  · exact absurd rfl written
  have small : mark.toLower = 'e' := by
    rcases marked with rfl | rfl <;> decide
  have apart : ∃ negative, Number.readSign (sign ++ digits) = (negative, digits) := by
    rcases signed with rfl | rfl | rfl
    · obtain ⟨first, rest, rfl⟩ := List.exists_cons_of_ne_nil nonempty
      exact ⟨false, Number.readSign_of_digit (all first List.mem_cons_self) rest⟩
    · exact ⟨false, rfl⟩
    · exact ⟨true, rfl⟩
  have digital : digits.all Char.isDigit = true := List.all_eq_true.mpr all
  obtain ⟨negative, apart⟩ := apart
  rw [Number.readExponent?, apart]
  exact ⟨_, if_pos ⟨small, nonempty, digital⟩⟩

/-- The reader takes a word of the scanner apart as the scanner has put it together. The digits of
both end at the same characters, since an exponent starts with neither a digit nor a point. -/
theorem readMantissa_parts (digits : Digits whole) (fractional : Fraction fraction)
    (scaled : Exponent exponent) :
    ∃ places, Number.readMantissa false (whole ++ fraction ++ exponent) =
      (whole, places, exponent) := by
  have behind : ∀ c ∈ exponent.head?, c.isDigit = false ∧ c ≠ '.' := by
    intro c first
    rcases scaled with rfl | ⟨mark, sign, digits, rfl, marked, -⟩
    · cases first
    · obtain rfl := Option.some.inj first
      rcases marked with rfl | rfl <;> decide
  rcases fractional with rfl | ⟨places, rfl, some, all⟩
  · have read := Number.readMantissa_digits digits.2 (List.forall_mem_nil _) behind
    exact ⟨[], by simpa using read⟩
  · have read := Number.readMantissa_digits digits.2 all behind
    rw [if_neg some, ← List.append_assoc] at read
    exact ⟨places, read⟩

/-- A word of the scanner is read as a decimal number without a sign, rounded to magnitude bits
that may be those of infinity. -/
theorem exists_magnitude (digits : Digits whole) (fractional : Fraction fraction)
    (scaled : Exponent exponent) :
    ∃ bits ≤ Number.infinityBits,
      Number.readDecimal? false (whole ++ fraction ++ exponent) =
        some (Number.ofMagnitude false bits) := by
  have plain : '_' ∉ whole ++ fraction ++ exponent := by
    intro member
    simpa using mem_parts digits fractional scaled member
  obtain ⟨places, read⟩ := readMantissa_parts digits fractional scaled
  unfold Number.readDecimal?
  simp only [Number.withoutSeparators?_of_plain plain, read, digits.1, Option.bind_eq_bind,
    Option.bind_some, false_and, ↓reduceIte]
  split
  · exact ⟨_, Number.magnitude_le _ _ _, rfl⟩
  · next written =>
    obtain ⟨order, scale⟩ := exists_order scaled written
    rw [scale]
    exact ⟨_, Number.magnitude_le _ _ _, rfl⟩

end Numeral

/-- What the scanner takes for a numeral denotes a number without a sign.

Proof: the word has no letter of the names of numbers, no sign before it and no mark of another
base. So it is read as a decimal, which is rounded to magnitude bits of at most infinity. -/
theorem Text.IsNumeral.exists_value {text : Text} (numeral : text.IsNumeral) :
    ∃ value, Number.ofNumeral? text = some value ∧ value.isNaN = false ∧
      Number.isNegative value = false := by
  obtain ⟨whole, fraction, exponent, rfl, digits, fractional, scaled⟩ := numeral
  have allowed {c : Char} (member : c ∈ whole ++ fraction ++ exponent) :=
    Numeral.mem_parts digits fractional scaled member
  have unnamed : Number.readNamed? (whole ++ fraction ++ exponent) = none := by
    apply Number.readNamed?_of_lacks
    intro member
    obtain ⟨c, inside, lowered⟩ := List.mem_map.mp member
    rcases allowed inside with digit | mark
    · rw [Number.toLower_of_isDigit digit] at lowered
      subst lowered
      cases digit
    · simp only [List.mem_cons, List.not_mem_nil, or_false] at mark
      rcases mark with rfl | rfl | rfl | rfl | rfl <;> cases lowered
  have unsigned : Number.readSign (whole ++ fraction ++ exponent) =
      (false, whole ++ fraction ++ exponent) := by
    obtain ⟨first, rest, rfl⟩ := List.exists_cons_of_ne_nil digits.1
    exact Number.readSign_of_digit (digits.2 first List.mem_cons_self) _
  have decimal : 'x' ∉ whole ++ fraction ++ exponent ∧ 'X' ∉ whole ++ fraction ++ exponent := by
    constructor
    · intro member
      simpa using allowed member
    · intro member
      simpa using allowed member
  obtain ⟨bits, most, read⟩ := Numeral.exists_magnitude digits fractional scaled
  refine ⟨_, ?_, Number.unsigned_ofMagnitude most⟩
  rw [Number.ofNumeral?_of_decimal unnamed unsigned decimal, read]

/-- A number among the tokens of a text is a numeral, by the way in which the scanner cuts it off.
-/
theorem Token.isNumeral_of_mem {text : Text} {token : Token} (member : token ∈ ofText text)
    (numeric : token.kind = .number) : token.lexeme.IsNumeral := by
  obtain ⟨first, rest, scanned⟩ := exists_scannedFrom member (by simp [numeric])
  obtain ⟨c, starts, digit⟩ := scanned.munched.numbers numeric
  exact (scanned.numeral starts digit).2.formed

/-! ### Numerals in trees -/

mutual

/-- The numerals in an expression with their values, in the order in which they are
written. -/
def Expr.numerals : Expr → List (Text × Float)
  | .name _ => []
  | .numeral _ raw value => [(raw, value)]
  | .unary _ _ operand => operand.numerals
  | .binary _ _ left right => left.numerals ++ right.numerals
  | .call _ _ args _ => Expr.numeralsOf args
  | .foreign _ _ => []

/-- The numerals in a list of expressions. -/
def Expr.numeralsOf : List Expr → List (Text × Float)
  | [] => []
  | first :: rest => first.numerals ++ Expr.numeralsOf rest

end

/-- The numerals in a statement. -/
def Stmt.numerals : Stmt → List (Text × Float)
  | .assign _ _ value => value.numerals
  | .call _ called => Expr.numeralsOf called.args
  | .print _ value => value.numerals
  | .foreign _ _ => []

/-- The numerals in a program. -/
def Program.numerals (program : Program) : List (Text × Float) :=
  program.body.flatMap Stmt.numerals

namespace Grammar

/-- Each of some numerals with values is a number among some tokens, and is read as its
value. -/
def ReadFrom (tokens : List Token) (numerals : List (Text × Float)) : Prop :=
  ∀ numeral ∈ numerals, Number.ofNumeral? numeral.1 = some numeral.2 ∧
    ∃ token ∈ tokens, token.kind = .number ∧ token.lexeme = numeral.1

variable {dialect : Dialect} {tokens : List Token}

/-- Numerals that are read from some tokens are read from more of them as well. -/
theorem ReadFrom.wider {more : List Token} {numerals : List (Text × Float)}
    (read : ReadFrom tokens numerals) (subset : tokens ⊆ more) : ReadFrom more numerals := by
  intro numeral member
  obtain ⟨denotes, token, among, spelled⟩ := read numeral member
  exact ⟨denotes, token, subset among, spelled⟩

/-- Numerals on both sides of a token are read from all the tokens. -/
theorem ReadFrom.join {first last : List Token} {op : Token} {left right : List (Text × Float)}
    (before : ReadFrom first left) (behind : ReadFrom last right) :
    ReadFrom (first ++ op :: last) (left ++ right) := by
  intro numeral member
  rcases List.mem_append.mp member with earlier | later
  · exact before.wider (List.subset_append_left _ _) numeral earlier
  · have beyond := List.subset_append_of_subset_right first (List.subset_cons_self op last)
    exact behind.wider beyond numeral later

mutual

/-- The numerals of a derived expression are read from its tokens.

Proof: induction on derivations, with one lemma for each form of phrase. Only the rule for a
numeral makes one, from a single token. -/
theorem Expression.readFrom {tokens : List Token} {tree : Expr}
    (derived : Expression dialect tokens tree) : ReadFrom tokens tree.numerals := by
  match derived with
  | .term only => exact only.readFrom
  | .sum before joins behind =>
    rw [Expr.join, Expr.numerals]
    exact before.readFrom.join behind.readFrom

/-- The numerals of a derived term are read from its tokens. -/
theorem Term.readFrom {tokens : List Token} {tree : Expr} (derived : Term dialect tokens tree) :
    ReadFrom tokens tree.numerals := by
  match derived with
  | .factor only => exact only.readFrom
  | .product before joins behind =>
    rw [Expr.join, Expr.numerals]
    exact before.readFrom.join behind.readFrom

/-- The numerals of a derived factor are read from its tokens. -/
theorem Factor.readFrom {tokens : List Token} {tree : Expr}
    (derived : Factor dialect tokens tree) : ReadFrom tokens tree.numerals := by
  match derived with
  | .primary only => exact only.readFrom
  | .power before joins behind =>
    rw [Expr.join, Expr.numerals]
    exact before.readFrom.join behind.readFrom
  | @Factor.negation _ sign tokens operand enabled minus behind =>
    rw [Expr.numerals]
    exact behind.readFrom.wider (List.subset_cons_self sign tokens)

/-- The numerals of a derived primary are read from its tokens. A numeral is its token and has the
value that this denotes. -/
theorem Primary.readFrom {tokens : List Token} {tree : Expr}
    (derived : Primary dialect tokens tree) : ReadFrom tokens tree.numerals := by
  match derived with
  | @Primary.call _ name opening closing within args named opens listed closes =>
    rw [Call.toExpr, Expr.numerals]
    refine listed.readFrom.wider ?_
    exact List.subset_cons_of_subset name
      (List.subset_cons_of_subset opening (List.subset_append_left within [closing]))
  | @Primary.number _ token value numeric denotes =>
    rw [Expr.numerals]
    refine List.forall_mem_singleton.mpr ⟨denotes, token, List.mem_cons_self, numeric, rfl⟩
  | .name named =>
    rw [Expr.numerals]
    exact List.forall_mem_nil _
  | @Primary.group _ opening closing within tree opens grouped closes =>
    refine grouped.readFrom.wider ?_
    exact List.subset_cons_of_subset opening (List.subset_append_left within [closing])

/-- The numerals of the derived arguments of a call are read from its tokens. -/
theorem Arguments.readFrom {tokens : List Token} {args : List Expr}
    (derived : Arguments dialect tokens args) : ReadFrom tokens (Expr.numeralsOf args) := by
  match derived with
  | .none =>
    rw [Expr.numeralsOf]
    exact List.forall_mem_nil _
  | .some listed => exact listed.readFrom

/-- The numerals of derived arguments are read from their tokens, one argument after another. -/
theorem ArgumentList.readFrom {tokens : List Token} {args : List Expr}
    (derived : ArgumentList dialect tokens args) : ReadFrom tokens (Expr.numeralsOf args) := by
  match derived with
  | .last only =>
    rw [Expr.numeralsOf, Expr.numeralsOf, List.append_nil]
    exact only.readFrom
  | .more before separates behind =>
    rw [Expr.numeralsOf]
    exact before.readFrom.join behind.readFrom

end

/-- The numerals of a derived statement are read from its tokens. They are those of its expression
or of its arguments, since a statement has no numerals of its own. -/
theorem Statement.readFrom {stmt : Stmt} (derived : Statement dialect tokens stmt) :
    ReadFrom tokens stmt.numerals := by
  cases derived with
  | @assign name sign ending within value named assigns assigned ends =>
    refine assigned.readFrom.wider ?_
    exact List.subset_cons_of_subset name
      (List.subset_cons_of_subset sign (List.subset_append_left within [ending]))
  | @call name opening closing ending within args named opens listed closes ends =>
    refine listed.readFrom.wider ?_
    rw [List.append_assoc]
    exact List.subset_cons_of_subset name
      (List.subset_cons_of_subset opening (List.subset_append_left within _))
  | @print word ending within value keyword prints printed ends =>
    refine printed.readFrom.wider ?_
    exact List.subset_cons_of_subset word (List.subset_append_left within [ending])

end Grammar

namespace Program

/-- The numerals of a program that is read from tokens are read from those. -/
theorem readFrom_ofTokens (dialect : Dialect) (tokens : List Token) :
    Grammar.ReadFrom tokens (ofTokens dialect tokens).1.numerals := by
  intro numeral member
  obtain ⟨stmt, among, inside⟩ := List.mem_flatMap.mp member
  rw [body_ofTokens] at among
  obtain ⟨segment, listed, derived⟩ := Reading.exists_segment_of_tree among
  have subset : segment ⊆ tokens := by
    have within := (List.infix_of_mem_flatten listed).subset
    rw [Token.flatten_segments] at within
    exact List.Subset.trans within (List.takeWhile_subset _)
  exact derived.readFrom.wider subset numeral inside

/-- The program that a text spells is the one that its tokens spell. -/
theorem eq_of_ofText {dialect : Dialect} {text : Text} {program : Program}
    (read : (ofText dialect text).1 = some program) :
    program = (ofTokens dialect (Token.ofText text)).1 := by
  rw [ofText] at read
  split at read
  · exact (Option.some.inj read).symm
  · cases read

/-- The code of malformed numerals is theirs alone. No other problem has it. -/
theorem exists_malformed {problem : Problem} (same : problem.code = Text.ofString "E2006") :
    ∃ lexeme, problem = .malformedNumeral lexeme := by
  cases problem with
  | malformedNumeral lexeme => exact ⟨lexeme, rfl⟩
  | _ =>
    rw [Problem.code] at same
    exact absurd same (by decide +kernel)

/-- No diagnostic about a token of a text is about a malformed numeral, because no token of a text
is one. -/
theorem code_ne_malformed {text : Text} {diagnostic : Diagnostic}
    (concerns : diagnostic.Concerns (Token.ofText text)) :
    diagnostic.code ≠ Text.ofString "E2006" := by
  obtain ⟨problem, token, member, cause, rfl⟩ := concerns
  intro malformed
  obtain ⟨lexeme, rfl⟩ := exists_malformed malformed
  cases cause with
  | numeral numeric meaningless =>
    obtain ⟨value, denotes, -⟩ := (Token.isNumeral_of_mem member numeric).exists_value
    rw [denotes] at meaningless
    cases meaningless

/-- Numerals are scanned and read alike. Every number among the tokens of a text is a
numeral that denotes a number, so none is reported as malformed, whether illegal characters
keep the text from being read or are ignored; and every numeral of a program that is read
has the value that it denotes, which is a number and has no sign. -/
theorem numerals_denote (dialect : Dialect) (text : Text) :
    (∀ token ∈ Token.ofText text, token.kind = .number →
      token.lexeme.IsNumeral ∧ ∃ value, Number.ofNumeral? token.lexeme = some value) ∧
    (∀ diagnostic ∈ (ofText dialect text).2, diagnostic.code ≠ Text.ofString "E2006") ∧
    (∀ diagnostic ∈ (ofTokens dialect (Token.ofText text)).2,
      diagnostic.code ≠ Text.ofString "E2006") ∧
    ∀ program, (ofText dialect text).1 = some program ∨
        program = (ofTokens dialect (Token.ofText text)).1 →
      ∀ raw value, (raw, value) ∈ program.numerals →
        Number.ofNumeral? raw = some value ∧ value.isNaN = false ∧
          Number.isNegative value = false := by
  refine ⟨?_, ?_, ?_, ?_⟩
  · intro token member numeric
    have numeral := Token.isNumeral_of_mem member numeric
    obtain ⟨value, denotes, -⟩ := numeral.exists_value
    exact ⟨numeral, value, denotes⟩
  · intro diagnostic reported
    exact code_ne_malformed (concerns_of_mem reported)
  · intro diagnostic reported
    exact code_ne_malformed (concerns_of_mem_ofTokens reported)
  · intro program read raw value written
    have same : program = (ofTokens dialect (Token.ofText text)).1 := by
      rcases read with strict | lenient
      · exact eq_of_ofText strict
      · exact lenient
    subst same
    obtain ⟨denotes, token, member, numeric, rfl⟩ := readFrom_ofTokens dialect _ _ written
    obtain ⟨unsigned, known, fine⟩ := (Token.isNumeral_of_mem member numeric).exists_value
    obtain rfl : value = unsigned := Option.some.inj (denotes.symm.trans known)
    exact ⟨denotes, fine⟩

end Program

end Astro
