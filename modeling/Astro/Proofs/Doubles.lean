import Astro.Proofs.Rounding
import Mathlib

/-!
# Doubles by their parts

A double is determined by its parts, and what is done to doubles is seen in their
parts: a sign that is changed or taken away, and the order, which is that of the
magnitude bits when there is no sign. Everything is shown of the bits of doubles, from
the core library's definitions of these operations.
-/

namespace Astro.Number

open Float.Model Float.Model.UnpackedFloat

/-! ### Fields of bits -/

/-- The mantissa of a double is in its 52 low bits. -/
theorem toNat_unpackMantissa (bits : BitVec Format.binary64.numBits) :
    (unpackMantissa bits).toNat = bits.toNat % 2 ^ 52 := by
  simp [unpackMantissa]

/-- The exponent of a double is in the 11 bits above its mantissa. -/
theorem toNat_unpackExponent (bits : BitVec Format.binary64.numBits) :
    (unpackExponent bits).toNat = bits.toNat / 2 ^ 52 % 2 ^ 11 := by
  simp [unpackExponent, Nat.shiftRight_eq_div_pow]

/-- The sign of a double is in its highest bit. -/
theorem toNat_unpackSign (bits : BitVec Format.binary64.numBits) :
    (unpackSign bits).toNat = bits.toNat / 2 ^ 63 % 2 := by
  simp [unpackSign, Nat.shiftRight_eq_div_pow]

/-- Sign, exponent and mantissa stand one behind the other, each in the bits that it is unpacked
from. -/
theorem toNat_packComponents (sign : Sign) (exponent : BitVec 11) (mantissa : BitVec 52) :
    (packComponents Format.binary64 sign exponent mantissa).toNat =
      sign.toBitVec.toNat * 2 ^ 63 + exponent.toNat * 2 ^ 52 + mantissa.toNat := by
  have front : (sign.toBitVec ++ exponent).toNat = sign.toBitVec.toNat * 2 ^ 11 + exponent.toNat := by
    rw [BitVec.toNat_append, ← Nat.shiftLeft_add_eq_or_of_lt exponent.isLt, Nat.shiftLeft_eq]
  change (sign.toBitVec ++ exponent ++ mantissa).toNat = _
  rw [BitVec.toNat_append, ← Nat.shiftLeft_add_eq_or_of_lt mantissa.isLt, front, Nat.shiftLeft_eq]
  ring

/-! ### Parts and bits -/

/-- The sign bit in its place. It stands above all magnitude bits. -/
def signBit (negative : Bool) : Nat := if negative then 2 ^ 63 else 0

/-- The core library's sign for whether a number is negative. -/
def signOf (negative : Bool) : Sign := if negative then .negative else .positive

/-- The core library's sign has the sign bit that belongs to it. -/
theorem toNat_signOf (negative : Bool) :
    (signOf negative).toBitVec.toNat * 2 ^ 63 = signBit negative := by
  cases negative <;> rfl

/-- The sign bit of a double is its leading bit. It is set in the bits from 2⁶³ on. -/
theorem ofBitVec_unpackSign (bits : BitVec Format.binary64.numBits) :
    Sign.ofBitVec (unpackSign bits) = signOf (decide (Nat.pow 2 63 ≤ bits.toNat)) := by
  have width : bits.toNat < 2 ^ 64 := bits.isLt
  have field := toNat_unpackSign bits
  unfold Sign.ofBitVec signOf
  by_cases large : Nat.pow 2 63 ≤ bits.toNat
  · have set : unpackSign bits ≠ 0#1 := by
      intro clear
      rw [clear] at field
      simp at field large
      omega
    rw [if_neg set, if_pos (decide_eq_true large)]
  · have clear : unpackSign bits = 0#1 := by
      apply BitVec.eq_of_toNat_eq
      rw [field]
      simp at large ⊢
      omega
    rw [if_pos clear, if_neg (by simpa using large)]

/-- The core library's view of a double, by its parts. -/
def Parts.unpacked : Parts → UnpackedFloat
  | .nan => .notANumber
  | .infinite negative => .infinity (signOf negative)
  | .finite negative mantissa exponent =>
    if some : 0 < mantissa then .finite (signOf negative) mantissa exponent some
    else .zero (signOf negative)

/-- Unpacked numbers with the same sign, mantissa and exponent are the same. -/
theorem finite_congr {sign : Sign} {mantissa mantissa' : Nat} {exponent exponent' : Int}
    {some : 0 < mantissa} {some' : 0 < mantissa'} (mantissas : mantissa = mantissa')
    (exponents : exponent = exponent') :
    UnpackedFloat.finite sign mantissa exponent some = .finite sign mantissa' exponent' some' := by
  subst mantissas exponents
  rfl

/-- The parts of a double are what the core library unpacks.

Proof: by the exponent field. With all bits set it stands for an infinity or for no number, with
none set for a subnormal number or zero, and else for a number with an implicit leading bit. -/
theorem unpack_eq (value : Float) : value.toModel.unpack = (parts value).unpacked := by
  let bits : BitVec Format.binary64.numBits := value.toBits.toBitVec
  have mantissaField : (unpackMantissa bits).toNat = value.toBits.toNat % Nat.pow 2 52 :=
    toNat_unpackMantissa bits
  have exponentField :
      (unpackExponent bits).toNat = value.toBits.toNat / Nat.pow 2 52 % Nat.pow 2 11 :=
    toNat_unpackExponent bits
  have sign : Sign.ofBitVec (unpackSign bits) =
      signOf (decide (Nat.pow 2 63 ≤ value.toBits.toNat)) :=
    ofBitVec_unpackSign bits
  have top : unpackExponent bits = -1#11 ↔ (unpackExponent bits).toNat = 2047 := by
    rw [← BitVec.toNat_inj]
    rfl
  have bottom : unpackExponent bits = 0#11 ↔ (unpackExponent bits).toNat = 0 := by
    rw [← BitVec.toNat_inj]
    rfl
  have none : unpackMantissa bits = 0#52 ↔ (unpackMantissa bits).toNat = 0 := by
    rw [← BitVec.toNat_inj]
    rfl
  have implicit : (1#1 ++ unpackMantissa bits).toNat = (unpackMantissa bits).toNat + Nat.pow 2 52 := by
    rw [BitVec.toNat_append, ← Nat.shiftLeft_add_eq_or_of_lt (unpackMantissa bits).isLt, Nat.add_comm]
    rfl
  change UnpackedFloat.unpack Format.binary64 bits = _
  unfold UnpackedFloat.unpack parts
  simp only [sign, top, bottom, none, exponentField, mantissaField]
  split
  · split <;> rfl
  · split
    · next subnormal =>
      split
      · next zero => simp only [Parts.unpacked, zero, Nat.lt_irrefl, ↓reduceDIte]
      · next some =>
        rw [Parts.unpacked, dif_pos (Nat.pos_of_ne_zero some)]
        apply finite_congr mantissaField
        rw [subnormal]
        rfl
    · rw [Parts.unpacked, dif_pos (Nat.add_pos_right _ (Nat.two_pow_pos 52))]
      apply finite_congr
      · rw [implicit, mantissaField]
      · have bias : (Format.binary64.exponentBias : Int) = 1023 := by decide
        rw [bias, leastExponent]
        push_cast
        omega

/-- The bits of a finite double are its sign, and behind it the magnitude bits that its
mantissa and exponent make up. -/
theorem toBits_of_finite {value : Float} {negative : Bool} {mantissa : Nat} {exponent : Int}
    (finite : parts value = .finite negative mantissa exponent) :
    Canonical mantissa exponent ∧ value.toBits.toNat =
      signBit negative + ((exponent - leastExponent).toNat * 2 ^ 52 + mantissa) := by
  have width : value.toBits.toNat < 2 ^ 64 := value.toBits.toNat_lt
  unfold parts at finite
  simp only [Nat.pow_eq] at finite
  generalize value.toBits.toNat = bits at *
  split at finite
  · split at finite <;> cases finite
  · next noTop =>
    split at finite
    · next subnormal =>
      obtain ⟨rfl, rfl, rfl⟩ := Parts.finite.inj finite
      constructor
      · exact ⟨by omega, le_refl _, by decide, .inl rfl⟩
      · simp only [signBit, decide_eq_true_eq, leastExponent]
        split <;> omega
    · next normal =>
      obtain ⟨rfl, rfl, rfl⟩ := Parts.finite.inj finite
      simp only [leastExponent]
      constructor
      · constructor
        · omega
        · simp only [leastExponent]
          omega
        · omega
        · right
          omega
      · simp only [signBit, decide_eq_true_eq]
        split <;> omega

/-- A double with such bits has such parts, as long as these are in the form that doubles have. A
mantissa of fewer digits than it could have stands at the least exponent only. -/
theorem parts_of_toBits {value : Float} {negative : Bool} {mantissa : Nat} {exponent : Int}
    (canonical : Canonical mantissa exponent)
    (same : value.toBits.toNat =
      signBit negative + ((exponent - leastExponent).toNat * 2 ^ 52 + mantissa)) :
    parts value = .finite negative mantissa exponent := by
  obtain ⟨digits, least, most, full⟩ := canonical
  unfold parts
  simp only [Nat.pow_eq]
  generalize value.toBits.toNat = bits at *
  have sign : decide (2 ^ 63 ≤ bits) = negative := by
    cases negative <;> simp [signBit, leastExponent] at * <;> omega
  have rest : bits % 2 ^ 63 = (exponent - leastExponent).toNat * 2 ^ 52 + mantissa := by
    cases negative <;> simp [signBit, leastExponent] at * <;> omega
  simp only [leastExponent] at *
  rw [sign, if_neg (by omega)]
  by_cases subnormal : bits / 2 ^ 52 % 2 ^ 11 = 0
  · rw [if_pos subnormal]
    congr 1 <;> omega
  · rw [if_neg subnormal]
    congr 1 <;> omega

/-- A finite double is made of its sign and its magnitude bits. -/
theorem eq_ofMagnitude {value : Float} {negative : Bool} {mantissa : Nat} {exponent : Int}
    (finite : parts value = .finite negative mantissa exponent) :
    value = ofMagnitude negative ((exponent - leastExponent).toNat * 2 ^ 52 + mantissa) := by
  obtain ⟨-, bits⟩ := toBits_of_finite finite
  have whole : (if negative then
        (exponent - leastExponent).toNat * 2 ^ 52 + mantissa + Nat.pow 2 63
      else (exponent - leastExponent).toNat * 2 ^ 52 + mantissa) = value.toBits.toNat := by
    rw [bits, signBit]
    cases negative <;> simp [Nat.add_comm]
  rw [ofMagnitude, whole, UInt64.ofNat_toNat, Float.ofBits_toBits]

/-- Magnitude bits up to those of infinity are kept, since none of them is that of what is
not a number. -/
theorem toBits_ofMagnitude (negative : Bool) {bits : Nat} (most : bits ≤ infinityBits) :
    (ofMagnitude negative bits).toBits.toNat = signBit negative + bits := by
  have top : infinityBits = 2047 * 2 ^ 52 := rfl
  have whole : (if negative then bits + Nat.pow 2 63 else bits) = signBit negative + bits := by
    unfold signBit
    cases negative <;> simp [Nat.add_comm]
  have sign : signBit negative = 2 ^ 63 ∨ signBit negative = 0 := ite_eq_or_eq _ _ _
  have width : signBit negative + bits < 2 ^ 64 := by omega
  let packed : BitVec Format.binary64.numBits := BitVec.ofNat 64 (signBit negative + bits)
  have stored : packed.toNat = signBit negative + bits := Nat.mod_eq_of_lt width
  have number : isNaNBits packed = false := by
    have exponentField := toNat_unpackExponent packed
    have mantissaField := toNat_unpackMantissa packed
    apply decide_eq_false
    rintro ⟨full, more⟩
    rw [full] at exponentField
    apply more
    apply BitVec.eq_of_toNat_eq
    change 2047 = _ at exponentField
    rw [mantissaField, stored]
    rw [stored] at exponentField
    change _ = 0
    omega
  have kept := pack_unpack packed
  rw [number] at kept
  rw [ofMagnitude, whole]
  change (UnpackedFloat.pack Format.binary64 (UnpackedFloat.unpack Format.binary64 packed)).toNat = _
  rw [kept]
  exact stored

/-- Magnitude bits make up a finite double exactly when they are its own. -/
theorem ofMagnitude_eq_iff {value : Float} {negative : Bool} {mantissa : Nat} {exponent : Int}
    (finite : parts value = .finite negative mantissa exponent) {bits : Nat}
    (most : bits ≤ infinityBits) :
    ofMagnitude negative bits = value ↔
      bits = (exponent - leastExponent).toNat * 2 ^ 52 + mantissa := by
  have own := (toBits_of_finite finite).2
  constructor
  · rintro rfl
    rw [toBits_ofMagnitude negative most] at own
    exact Nat.add_left_cancel own
  · rintro rfl
    exact (eq_ofMagnitude finite).symm

/-! ### Signs and order -/

/-- Packing the parts of a finite double gives its bits. A mantissa of full width raises the
exponent field by one, as its leading bit is not stored. -/
theorem toNat_pack {mantissa : Nat} {exponent : Int} (canonical : Canonical mantissa exponent)
    (negative : Bool) :
    (UnpackedFloat.pack Format.binary64 (Parts.finite negative mantissa exponent).unpacked).toNat =
      signBit negative + ((exponent - leastExponent).toNat * 2 ^ 52 + mantissa) := by
  obtain ⟨digits, least, most, full⟩ := canonical
  have bias : (Format.binary64.exponentBias : Int) = 1023 := by decide
  simp only [Parts.unpacked, leastExponent] at *
  split
  · next some =>
    have width : mantissa.log2 + 1 = Format.binary64.mantissaBits ↔ 2 ^ 52 ≤ mantissa := by
      change mantissa.log2 + 1 = 53 ↔ _
      rw [← Nat.le_log2 (Nat.ne_of_gt some)]
      have below := (Nat.log2_lt (Nat.ne_of_gt some)).mpr digits
      omega
    rw [UnpackedFloat.pack]
    simp only [bias, width]
    rw [if_neg (by push_cast; omega)]
    split
    · rw [toNat_packComponents, toNat_signOf, BitVec.toNat_ofNat, BitVec.toNat_ofNat]
      push_cast
      omega
    · rw [toNat_packComponents, toNat_signOf, BitVec.toNat_ofNat, BitVec.toNat_ofNat]
      omega
  · rw [UnpackedFloat.pack, packedZero, toNat_packComponents, toNat_signOf]
    simp
    omega

/-- A double that is packed from the parts of a finite one has these parts. -/
theorem parts_pack {mantissa : Nat} {exponent : Int} (canonical : Canonical mantissa exponent)
    (negative : Bool) :
    parts ⟨Float.Model.pack (Parts.finite negative mantissa exponent).unpacked⟩ =
      .finite negative mantissa exponent :=
  parts_of_toBits canonical (toNat_pack canonical negative)

/-- Negation changes the sign and leaves the other parts. This holds for zero as well, of which
there are two. -/
theorem parts_neg {value : Float} {negative : Bool} {mantissa : Nat} {exponent : Int}
    (finite : parts value = .finite negative mantissa exponent) :
    parts (-value) = .finite (!negative) mantissa exponent := by
  have changed : value.toModel.unpack.neg = (Parts.finite (!negative) mantissa exponent).unpacked := by
    rw [unpack_eq, finite]
    simp only [Parts.unpacked]
    split <;> cases negative <;> rfl
  change parts ⟨Float.Model.pack value.toModel.unpack.neg⟩ = _
  rw [changed, parts_pack (toBits_of_finite finite).1]

/-- The negation of what magnitude bits make up is made up of them with a sign. -/
theorem neg_ofMagnitude {mantissa : Nat} {exponent : Int} (canonical : Canonical mantissa exponent) :
    -ofMagnitude false ((exponent - leastExponent).toNat * 2 ^ 52 + mantissa) =
      ofMagnitude true ((exponent - leastExponent).toNat * 2 ^ 52 + mantissa) := by
  have plain : parts (ofMagnitude false ((exponent - leastExponent).toNat * 2 ^ 52 + mantissa)) =
      .finite false mantissa exponent := by
    apply parts_of_toBits canonical
    exact toBits_ofMagnitude false (le_of_lt canonical.lt_infinityBits)
  exact eq_ofMagnitude (parts_neg plain)

/-- A finite double is its size, or the negation of that. -/
theorem signed_ofMagnitude {value : Float} {negative : Bool} {mantissa : Nat} {exponent : Int}
    (finite : parts value = .finite negative mantissa exponent) :
    (if negative then -ofMagnitude false ((exponent - leastExponent).toNat * 2 ^ 52 + mantissa)
      else ofMagnitude false ((exponent - leastExponent).toNat * 2 ^ 52 + mantissa)) = value := by
  rw [neg_ofMagnitude (toBits_of_finite finite).1]
  cases negative with
  | false => exact (eq_ofMagnitude finite).symm
  | true => exact (eq_ofMagnitude finite).symm

/-- The size of a double has no sign, and otherwise the same parts. -/
theorem parts_abs {value : Float} {negative : Bool} {mantissa : Nat} {exponent : Int}
    (finite : parts value = .finite negative mantissa exponent) :
    parts value.abs = .finite false mantissa exponent := by
  have plain : value.toModel.unpack.abs = (Parts.finite false mantissa exponent).unpacked := by
    rw [unpack_eq, finite]
    simp only [Parts.unpacked]
    split <;> rfl
  change parts ⟨Float.Model.pack value.toModel.unpack.abs⟩ = _
  rw [plain, parts_pack (toBits_of_finite finite).1]

/-- Positive doubles are compared by their exponents and then by their mantissas, which is the
order of their magnitude bits. A mantissa that is not at the least exponent has its full width, so
that an exponent more outweighs any mantissa. -/
theorem compare_bits {mantissa mantissa' : Nat} {exponent exponent' : Int}
    (canonical : Canonical mantissa exponent) (canonical' : Canonical mantissa' exponent') :
    (compare exponent exponent').then (compare mantissa mantissa') =
      compare ((exponent - leastExponent).toNat * 2 ^ 52 + mantissa)
        ((exponent' - leastExponent).toNat * 2 ^ 52 + mantissa') := by
  obtain ⟨digits, least, -, full⟩ := canonical
  obtain ⟨digits', least', -, full'⟩ := canonical'
  simp only [leastExponent] at *
  rcases lt_trichotomy exponent exponent' with lower | rfl | higher
  · have less : (exponent - -1074).toNat * 2 ^ 52 + mantissa <
        (exponent' - -1074).toNat * 2 ^ 52 + mantissa' := by
      omega
    rw [compare_lt_iff_lt.mpr lower, compare_lt_iff_lt.mpr less]
    rfl
  · rw [compare_eq_iff_eq.mpr rfl]
    change compare mantissa mantissa' = _
    rcases lt_trichotomy mantissa mantissa' with less | rfl | more
    · rw [compare_lt_iff_lt.mpr less, compare_lt_iff_lt.mpr (by omega)]
    · rw [compare_eq_iff_eq.mpr rfl, compare_eq_iff_eq.mpr rfl]
    · rw [compare_gt_iff_gt.mpr more, compare_gt_iff_gt.mpr (by omega)]
  · have more : (exponent' - -1074).toNat * 2 ^ 52 + mantissa' <
        (exponent - -1074).toNat * 2 ^ 52 + mantissa := by
      omega
    rw [compare_gt_iff_gt.mpr higher, compare_gt_iff_gt.mpr more]
    rfl

section Order

variable {first second : Float} {mantissa mantissa' : Nat} {exponent exponent' : Int}
  (finite : parts first = .finite false mantissa exponent)
  (finite' : parts second = .finite false mantissa' exponent')
  (some : 0 < mantissa) (some' : 0 < mantissa')

include finite finite' some some'

/-- Positive doubles compare like their magnitude bits. The comparison looks at the exponents
first and then at the mantissas. -/
theorem compare_of_finite :
    first.toModel.unpack.compare second.toModel.unpack =
      Option.some (compare ((exponent - leastExponent).toNat * 2 ^ 52 + mantissa)
        ((exponent' - leastExponent).toNat * 2 ^ 52 + mantissa')) := by
  rw [unpack_eq, unpack_eq, finite, finite', Parts.unpacked, Parts.unpacked, dif_pos some,
    dif_pos some', ← compare_bits (toBits_of_finite finite).1 (toBits_of_finite finite').1]
  rfl

/-- A positive double is at most another exactly when its magnitude bits are. -/
theorem le_iff_bits :
    first ≤ second ↔ (exponent - leastExponent).toNat * 2 ^ 52 + mantissa ≤
      (exponent' - leastExponent).toNat * 2 ^ 52 + mantissa' := by
  have unfolded : first ≤ second ↔
      (first.toModel.unpack.compare second.toModel.unpack).any (·.isLE) = true :=
    decide_eq_true_iff
  rw [unfolded, compare_of_finite finite finite' some some', Option.any_some, Std.isLE_compare]

/-- A positive double is less than another exactly when its magnitude bits are. -/
theorem lt_iff_bits :
    first < second ↔ (exponent - leastExponent).toNat * 2 ^ 52 + mantissa <
      (exponent' - leastExponent).toNat * 2 ^ 52 + mantissa' := by
  have unfolded : first < second ↔
      (first.toModel.unpack.compare second.toModel.unpack == Option.some .lt) = true :=
    decide_eq_true_iff
  rw [unfolded, compare_of_finite finite finite' some some', beq_iff_eq, Option.some_inj,
    compare_lt_iff_lt]

end Order

/-- Finite doubles are those with a mantissa and an exponent. -/
theorem isFinite_iff (value : Float) :
    value.isFinite = true ↔
      ∃ negative mantissa exponent, parts value = .finite negative mantissa exponent := by
  change value.toModel.unpack.isFinite = true ↔ _
  rw [unpack_eq]
  cases parts value with
  | nan => simp [Parts.unpacked, UnpackedFloat.isFinite]
  | infinite negative => simp [Parts.unpacked, UnpackedFloat.isFinite]
  | finite negative mantissa exponent =>
    simp only [Parts.unpacked]
    split <;> simp [UnpackedFloat.isFinite]

/-- What is not a number has no other parts, and nothing else has none. -/
theorem isNaN_iff_parts (value : Float) : value.isNaN = true ↔ parts value = .nan := by
  change value.toModel.unpack.isNaN = true ↔ _
  rw [unpack_eq]
  cases parts value with
  | nan => simp [Parts.unpacked]
  | infinite negative => simp [Parts.unpacked]
  | finite negative mantissa exponent =>
    simp only [Parts.unpacked]
    split <;> simp

/-- A double that is infinite is one of the two infinities, by its sign. Its bits leave no choice,
since the mantissa field of an infinity is empty. -/
theorem eq_infinity {value : Float} {negative : Bool} (infinite : parts value = .infinite negative) :
    value = infinity negative := by
  have width : value.toBits.toNat < 2 ^ 64 := value.toBits.toNat_lt
  have bits : (if negative then infinityBits + Nat.pow 2 63 else infinityBits) =
      value.toBits.toNat := by
    unfold parts at infinite
    simp only [infinityBits, Nat.pow_eq] at infinite ⊢
    generalize value.toBits.toNat = bits at *
    split at infinite
    · split at infinite
      · obtain rfl := Parts.infinite.inj infinite
        split <;> simp_all <;> omega
      · cases infinite
    · split at infinite <;> cases infinite
  rw [infinity, ofMagnitude, bits, UInt64.ofNat_toNat, Float.ofBits_toBits]

/-- The sign bit of a finite double is the sign among its parts. -/
theorem isNegative_of_finite {value : Float} {negative : Bool} {mantissa : Nat} {exponent : Int}
    (finite : parts value = .finite negative mantissa exponent) : isNegative value = negative := by
  obtain ⟨canonical, bits⟩ := toBits_of_finite finite
  have most := canonical.lt_infinityBits
  rw [isNegative, bits, signBit]
  simp only [infinityBits, Nat.pow_eq] at most ⊢
  cases negative
  · simp
    omega
  · simp

end Astro.Number
