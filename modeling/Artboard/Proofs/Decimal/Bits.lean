import Artboard.Proofs.Decimal.Value

/-!
# Bits of doubles

Arithmetic takes a double apart, computes, and puts the result together again.  What it
takes out of the bits is the sign and the magnitude that are read from them here, and every
mantissa and exponent of a double are put together to a double with this mantissa and
exponent.  So what arithmetic does can be said of magnitudes and signs.
-/

namespace Artboard
namespace Decimal

open Float.Model (UnpackedFloat Format)
open Float.Model.UnpackedFloat (Sign unpackMantissa unpackExponent unpackSign packComponents)

/-! ## Taking apart -/

/-- What a double that is taken apart says apart from its sign. -/
def partsMagnitude : UnpackedFloat → Magnitude
  | .notANumber => .nan
  | .infinity _ => .infinite
  | .zero _ => .finite 0 (-1074)
  | .finite _ mantissa exponent _ => .finite mantissa exponent

def partsNegative : UnpackedFloat → Bool
  | .notANumber => false
  | .infinity sign | .zero sign | .finite sign _ _ _ => sign == .negative

theorem partsMagnitude_finite {sign : Sign} {mantissa : Nat} {exponent : Int}
    {positive : 0 < mantissa} :
    partsMagnitude (.finite sign mantissa exponent positive) = .finite mantissa exponent := rfl

/-- A normal mantissa has one more bit than is written. -/
theorem toNat_normal (mantissa : BitVec 52) :
    (1#1 ++ mantissa).toNat = 1 <<< 52 + mantissa.toNat := by
  rw [BitVec.toNat_append, ← Nat.shiftLeft_add_eq_or_of_lt mantissa.isLt]
  rfl

/-- The sign bit, a field of eleven bits for the exponent, and a fraction of fifty-two bits say
what is taken out. -/
theorem unpack_eq (bits : BitVec 64) :
    UnpackedFloat.unpack .binary64 bits =
      if @unpackExponent .binary64 bits = -1#11 then
        if @unpackMantissa .binary64 bits = 0#52 then
          .infinity (Sign.ofBitVec (@unpackSign .binary64 bits))
        else .notANumber
      else if @unpackExponent .binary64 bits = 0#11 then
        if zero : @unpackMantissa .binary64 bits = 0#52 then
          .zero (Sign.ofBitVec (@unpackSign .binary64 bits))
        else .finite (Sign.ofBitVec (@unpackSign .binary64 bits))
          (@unpackMantissa .binary64 bits).toNat
          ((@unpackExponent .binary64 bits).toNat - 1075 + 1)
          (Nat.pos_of_ne_zero fun none => zero (BitVec.eq_of_toNat_eq none))
      else .finite (Sign.ofBitVec (@unpackSign .binary64 bits))
        (1#1 ++ @unpackMantissa .binary64 bits).toNat
        ((@unpackExponent .binary64 bits).toNat - 1075)
        (toNat_normal _ ▸ Nat.lt_of_lt_of_le (by decide) (Nat.le_add_right _ _)) :=
  rfl

theorem finite_congr {sign other : Sign} {mantissa digits : Nat} {exponent power : Int}
    {positive : 0 < mantissa} {digitsPos : 0 < digits} (sameSign : sign = other)
    (sameMantissa : mantissa = digits) (sameExponent : exponent = power) :
    UnpackedFloat.finite sign mantissa exponent positive =
      .finite other digits power digitsPos := by
  subst sameSign sameMantissa sameExponent
  rfl

section

variable (x : Float)

theorem toNat_unpackMantissa :
    (@unpackMantissa .binary64 x.toModel.toBits.toBitVec).toNat =
      x.toBits.toNat % (1 <<< 52) := by
  rw [unpackMantissa, BitVec.toNat_cast, BitVec.extractLsb_toNat]
  rfl

theorem toNat_unpackExponent :
    (@unpackExponent .binary64 x.toModel.toBits.toBitVec).toNat =
      (x.toBits.toNat >>> 52) % 2048 := by
  rw [unpackExponent, BitVec.toNat_cast, BitVec.extractLsb_toNat]
  rfl

theorem toNat_unpackSign :
    (@unpackSign .binary64 x.toModel.toBits.toBitVec).toNat = x.toBits.toNat >>> 63 := by
  have oneBit : x.toBits.toNat >>> 63 < 2 := by
    have bound : x.toBits.toNat < 2 ^ 64 := x.toBits.toBitVec.isLt
    rw [Nat.shiftRight_eq_div_pow]
    omega
  have taken : @unpackSign .binary64 x.toModel.toBits.toBitVec =
      x.toBits.toBitVec.extractLsb 63 63 := rfl
  rw [taken, BitVec.extractLsb_toNat]
  exact Nat.mod_eq_of_lt oneBit

theorem magnitude_eq : magnitude x = partsMagnitude x.toModel.unpack := by
  have fraction := toNat_unpackMantissa x
  have field := toNat_unpackExponent x
  have ones : @unpackExponent .binary64 x.toModel.toBits.toBitVec = -1#11 ↔
      (x.toBits.toNat >>> 52) % 2048 = 2047 := by
    rw [← BitVec.toNat_inj, field]
    rfl
  have noExponent : @unpackExponent .binary64 x.toModel.toBits.toBitVec = 0#11 ↔
      (x.toBits.toNat >>> 52) % 2048 = 0 := by
    rw [← BitVec.toNat_inj, field]
    rfl
  have noMantissa : @unpackMantissa .binary64 x.toModel.toBits.toBitVec = 0#52 ↔
      x.toBits.toNat % (1 <<< 52) = 0 := by
    rw [← BitVec.toNat_inj, fraction]
    rfl
  rw [magnitude, Float.Model.unpack, unpack_eq]
  dsimp only
  by_cases notFinite : (x.toBits.toNat >>> 52) % 2048 = 2047
  · rw [if_pos notFinite, if_pos (ones.mpr notFinite)]
    by_cases infinite : x.toBits.toNat % (1 <<< 52) = 0
    · rw [if_pos infinite, if_pos (noMantissa.mpr infinite)]
      rfl
    · rw [if_neg infinite, if_neg (infinite ∘ noMantissa.mp)]
      rfl
  rw [if_neg notFinite, if_neg (notFinite ∘ ones.mp)]
  by_cases small : (x.toBits.toNat >>> 52) % 2048 = 0
  · rw [if_pos small, if_pos (noExponent.mpr small)]
    by_cases zero : x.toBits.toNat % (1 <<< 52) = 0
    · rw [dif_pos (noMantissa.mpr zero), zero]
      rfl
    · rw [dif_neg (zero ∘ noMantissa.mp), partsMagnitude_finite, fraction, field, small]
      rfl
  · rw [if_neg small, if_neg (small ∘ noExponent.mp), partsMagnitude_finite, toNat_normal,
      fraction, field]

theorem isNegative_eq : isNegative x = partsNegative x.toModel.unpack := by
  have sign : (Sign.ofBitVec (@unpackSign .binary64 x.toModel.toBits.toBitVec) == .negative) =
      isNegative x := by
    rw [isNegative, ← toNat_unpackSign x]
    generalize @unpackSign .binary64 x.toModel.toBits.toBitVec = bit
    revert bit
    decide
  rw [Float.Model.unpack, unpack_eq]
  by_cases notFinite : @unpackExponent .binary64 x.toModel.toBits.toBitVec = -1#11
  · rw [if_pos notFinite]
    by_cases infinite : @unpackMantissa .binary64 x.toModel.toBits.toBitVec = 0#52
    · rw [if_pos infinite]
      exact sign.symm
    · -- What is not a number has one form only, and its sign bit is not set.
      have canonical := x.toModel.valid.eq_packedNaN notFinite infinite
      have bits : x.toBits.toNat = (UnpackedFloat.packedNaN .binary64).toNat :=
        congrArg BitVec.toNat canonical
      rw [if_neg infinite, isNegative, bits]
      rfl
  rw [if_neg notFinite]
  by_cases small : @unpackExponent .binary64 x.toModel.toBits.toBitVec = 0#11
  · rw [if_pos small]
    by_cases zero : @unpackMantissa .binary64 x.toModel.toBits.toBitVec = 0#52
    · rw [dif_pos zero]
      exact sign.symm
    · rw [dif_neg zero]
      exact sign.symm
  · rw [if_neg small]
    exact sign.symm

end

section

variable {x : Float} {mantissa : Nat} {exponent : Int}

theorem unpack_of_unsigned (finite : magnitude x = .finite mantissa exponent)
    (positive : 0 < mantissa) (unsigned : isNegative x = false) :
    x.toModel.unpack = .finite .positive mantissa exponent positive := by
  rw [magnitude_eq] at finite
  rw [isNegative_eq] at unsigned
  generalize x.toModel.unpack = parts at *
  cases parts with
  | notANumber => cases finite
  | infinity sign => cases finite
  | zero sign =>
      cases finite
      exact absurd positive (Nat.lt_irrefl 0)
  | finite sign digits power digitsPos =>
      cases finite
      cases sign with
      | negative => cases unsigned
      | positive => rfl

theorem exists_unpack_zero (zero : magnitude x = .finite 0 exponent) :
    ∃ sign, x.toModel.unpack = .zero sign := by
  rw [magnitude_eq] at zero
  generalize x.toModel.unpack = parts at *
  cases parts with
  | notANumber => cases zero
  | infinity sign => cases zero
  | zero sign => exact ⟨sign, rfl⟩
  | finite sign digits power positive =>
      cases zero
      exact absurd positive (Nat.lt_irrefl 0)

theorem unpack_of_nan (nan : magnitude x = .nan) : x.toModel.unpack = .notANumber := by
  rw [magnitude_eq] at nan
  generalize x.toModel.unpack = parts at *
  cases parts with
  | notANumber => rfl
  | _ => cases nan

theorem value?_of_zero (zero : magnitude x = .finite 0 exponent) : value? x = some 0 := by
  rw [value?_of_finite zero, size_zero, neg_zero, ite_self]

/-- The exponent of a double does not exceed the largest one. -/
theorem exponent_le_of_magnitude (finite : magnitude x = .finite mantissa exponent) :
    exponent ≤ 971 := by
  unfold magnitude at finite
  dsimp only at finite
  have field := Nat.mod_lt (x.toBits.toNat >>> 52) (show 0 < 2048 by decide)
  split at finite
  · split at finite
    · cases finite
    · cases finite
  · split at finite
    · cases finite
      decide
    · cases finite
      omega

end

/-! ## Putting together -/

theorem ofBitVec_unpackSign (sign : Sign) (exponent : BitVec 11) (mantissa : BitVec 52) :
    Sign.ofBitVec (@unpackSign .binary64 (packComponents .binary64 sign exponent mantissa)) =
      sign := by
  have taken : @unpackSign .binary64 (packComponents .binary64 sign exponent mantissa) =
      (sign.toBitVec ++ exponent ++ mantissa).extractLsb' 63 1 := rfl
  rw [taken, BitVec.extractLsb'_append_eq_of_le (by decide),
    BitVec.extractLsb'_append_eq_of_le (by decide)]
  cases sign <;> rfl

section

variable {sign : Sign} {mantissa : Nat} {exponent : Int}

/-- What is not too large is written with a field for its exponent, or without one if its
mantissa is short. -/
theorem pack_finite (positive : 0 < mantissa) :
    UnpackedFloat.pack .binary64 (.finite sign mantissa exponent positive) =
      if 2 ^ 11 ≤ (exponent + 1023 + 52).toNat + 1 then UnpackedFloat.packedInfinity .binary64 sign
      else if mantissa.log2 + 1 = 53 then
        packComponents .binary64 sign (BitVec.ofNat 11 (exponent + 1023 + 52).toNat)
          (BitVec.ofNat 52 mantissa)
      else packComponents .binary64 sign 0#11 (BitVec.ofNat 52 mantissa) :=
  rfl

/-- A mantissa and an exponent of a double are taken out again as they were put in. -/
theorem unpack_pack (positive : 0 < mantissa) (canonical : IsCanonical mantissa exponent)
    (largest : exponent ≤ 971) :
    (Float.Model.pack (.finite sign mantissa exponent positive)).unpack =
      .finite sign mantissa exponent positive := by
  have least := canonical.least
  have fits := canonical.fits
  have inside : ¬2 ^ 11 ≤ (exponent + 1023 + 52).toNat + 1 := by omega
  have fraction : (BitVec.ofNat 52 mantissa).toNat = mantissa % 2 ^ 52 := BitVec.toNat_ofNat _ _
  change UnpackedFloat.unpack .binary64 (UnpackedFloat.pack .binary64 _) = _
  rw [pack_finite, if_neg inside]
  by_cases normal : 2 ^ 52 ≤ mantissa
  · have bits : mantissa.log2 + 1 = 53 := by
      rw [(Nat.log2_eq_iff (Nat.ne_of_gt positive)).mpr ⟨normal, fits⟩]
    have field : (BitVec.ofNat 11 (exponent + 1023 + 52).toNat).toNat =
        (exponent + 1023 + 52).toNat := by
      rw [BitVec.toNat_ofNat, Nat.mod_eq_of_lt (by omega)]
    have notOnes : BitVec.ofNat 11 (exponent + 1023 + 52).toNat ≠ -1#11 := by
      intro same
      have fields := congrArg BitVec.toNat same
      have ones : (-1#11).toNat = 2047 := by decide
      omega
    have notZero : BitVec.ofNat 11 (exponent + 1023 + 52).toNat ≠ 0#11 := by
      intro same
      have fields := congrArg BitVec.toNat same
      have zero : (0#11).toNat = 0 := rfl
      omega
    have whole : (1#1 ++ BitVec.ofNat 52 mantissa).toNat = mantissa := by
      rw [toNat_normal, fraction]
      omega
    rw [if_pos bits, unpack_eq, UnpackedFloat.unpackExponent_packComponents, if_neg notOnes,
      if_neg notZero]
    apply finite_congr (ofBitVec_unpackSign sign _ _)
    · rw [UnpackedFloat.unpackMantissa_packComponents]
      exact whole
    · omega
  · have bits : ¬mantissa.log2 + 1 = 53 := by
      have less := (Nat.log2_lt (Nat.ne_of_gt positive)).mpr (Nat.lt_of_not_le normal)
      omega
    have whole : (BitVec.ofNat 52 mantissa).toNat = mantissa := by
      rw [fraction]
      omega
    have notZero : ¬@unpackMantissa .binary64 (packComponents .binary64 sign 0#11
        (BitVec.ofNat 52 mantissa)) = 0#52 := by
      rw [UnpackedFloat.unpackMantissa_packComponents]
      intro same
      have fields := congrArg BitVec.toNat same
      rw [whole] at fields
      exact absurd fields (Nat.ne_of_gt positive)
    have notOnes : ¬0#11 = -1#11 := by decide
    rw [if_neg bits, unpack_eq, UnpackedFloat.unpackExponent_packComponents, if_neg notOnes,
      if_pos rfl, dif_neg notZero]
    apply finite_congr (ofBitVec_unpackSign sign _ _)
    · rw [UnpackedFloat.unpackMantissa_packComponents]
      exact whole
    · rw [canonical.fills.resolve_left normal]
      rfl

theorem magnitude_of_pack (positive : 0 < mantissa) (canonical : IsCanonical mantissa exponent)
    (largest : exponent ≤ 971) {x : Float}
    (packed : x.toModel = Float.Model.pack (.finite sign mantissa exponent positive)) :
    magnitude x = .finite mantissa exponent ∧ isNegative x = (sign == .negative) := by
  rw [magnitude_eq, isNegative_eq, packed, unpack_pack positive canonical largest]
  exact ⟨rfl, rfl⟩

end

/-- A double that is taken apart and put together again is taken apart as before. -/
theorem unpack_pack_unpack (x : Float) :
    (Float.Model.pack x.toModel.unpack).unpack = x.toModel.unpack := by
  have magnitude := magnitude_eq x
  cases parts : x.toModel.unpack with
  | notANumber => rfl
  | infinity sign => cases sign <;> rfl
  | zero sign => cases sign <;> rfl
  | finite sign mantissa exponent positive =>
      rw [parts] at magnitude
      exact unpack_pack positive (isCanonical_of_magnitude magnitude)
        (exponent_le_of_magnitude magnitude)

/-! ## Adding zero -/

/-- What a double is apart from the sign of zero. -/
def unsignedZero : UnpackedFloat → UnpackedFloat
  | .zero _ => .zero .positive
  | parts => parts

/-- A double stays what it is when zero is added, apart from the sign of zero. -/
theorem unpack_add_zero (x : Float) :
    (x + 0.0).toModel.unpack = unsignedZero x.toModel.unpack := by
  have zero : (0.0 : Float).toModel.unpack = .zero .positive := rfl
  have sum : (x + 0.0).toModel =
      Float.Model.pack (UnpackedFloat.add .binary64 x.toModel.unpack (.zero .positive)) := by
    rw [← zero]
    rfl
  have again := unpack_pack_unpack x
  cases parts : x.toModel.unpack with
  | notANumber =>
      rw [sum, parts]
      rfl
  | infinity sign =>
      rw [parts] at sum again
      rw [sum]
      exact again
  | zero sign =>
      rw [sum, parts]
      cases sign <;> rfl
  | finite sign mantissa exponent positive =>
      rw [parts] at sum again
      rw [sum]
      exact again

theorem magnitude_add_zero (x : Float) : magnitude (x + 0.0) = magnitude x := by
  rw [magnitude_eq, magnitude_eq, unpack_add_zero]
  cases x.toModel.unpack <;> rfl

/-- Whether a double is zero, with one sign or the other. -/
def isZero (x : Float) : Bool :=
  magnitude x == .finite 0 (-1074)

theorem isNegative_add_zero (x : Float) :
    isNegative (x + 0.0) = (isNegative x && !isZero x) := by
  rw [isZero, isNegative_eq, isNegative_eq, magnitude_eq, unpack_add_zero]
  cases x.toModel.unpack with
  | notANumber => rfl
  | infinity sign => cases sign <;> rfl
  | zero sign => cases sign <;> rfl
  | finite sign mantissa exponent positive =>
      have notZero : (partsMagnitude (.finite sign mantissa exponent positive) ==
          .finite 0 (-1074)) = false := by
        apply beq_eq_false_iff_ne.mpr
        intro same
        cases same
        exact absurd positive (Nat.lt_irrefl 0)
      rw [notZero, Bool.not_false, Bool.and_true]
      rfl

/-! ## Comparing -/

theorem lt_iff {x y : Float} : x < y ↔ x.toModel.unpack.compare y.toModel.unpack = some .lt := by
  change Float.lt x y = true ↔ _
  rw [Float.lt, decide_eq_true_iff]
  exact beq_iff_eq

section

variable {x : Float} {parts : UnpackedFloat}

theorem lt_zero_iff (unpacked : x.toModel.unpack = parts) :
    x < 0.0 ↔ parts.compare (.zero .positive) = some .lt := by
  have zero : (0.0 : Float).toModel.unpack = .zero .positive := rfl
  rw [lt_iff, zero, unpacked]

/-- What has no sign is not below zero. -/
theorem not_lt_zero_of_unsigned (unsigned : isNegative x = false) : ¬x < 0.0 := by
  rw [isNegative_eq] at unsigned
  rw [lt_zero_iff rfl]
  intro less
  generalize x.toModel.unpack = parts at *
  cases parts with
  | notANumber => cases less
  | infinity sign =>
      cases sign with
      | negative => cases unsigned
      | positive => cases less
  | zero sign => cases less
  | finite sign mantissa exponent positive =>
      cases sign with
      | negative => cases unsigned
      | positive => cases less

theorem one_lt_iff (unpacked : x.toModel.unpack = parts) :
    1.0 < x ↔ (UnpackedFloat.finite .positive (2 ^ 52) (-52) (by decide)).compare parts =
      some .lt := by
  have one : (1.0 : Float).toModel.unpack = .finite .positive (2 ^ 52) (-52) (by decide) := rfl
  rw [lt_iff, one, unpacked]

/-- Positive mantissas and exponents are compared with those of one. -/
theorem one_lt_iff_of_finite {mantissa : Nat} {exponent : Int} {positive : 0 < mantissa}
    (unpacked : x.toModel.unpack = .finite .positive mantissa exponent positive) :
    1.0 < x ↔ (compare (-52) exponent).then (compare (2 ^ 52) mantissa) = .lt :=
  (one_lt_iff unpacked).trans ⟨Option.some.inj, congrArg some⟩

end

/-- What is not a number stays so. -/
theorem magnitude_div_of_nan {x : Float} (y : Float) (nan : magnitude x = .nan) :
    magnitude (x / y) = .nan := by
  have divided : (x / y).toModel =
      Float.Model.pack (UnpackedFloat.div .binary64 .notANumber y.toModel.unpack) := by
    rw [← unpack_of_nan nan]
    rfl
  have lost : UnpackedFloat.div .binary64 .notANumber y.toModel.unpack = .notANumber := rfl
  rw [magnitude_eq, divided, lost]
  rfl

theorem size_one : size (2 ^ 52) (-52) = 1 := by
  rw [size]
  norm_num

/-- A mantissa and an exponent are compared with those of one, the exponent first. -/
theorem one_lt_size_iff {mantissa : Nat} {exponent : Int}
    (canonical : IsCanonical mantissa exponent) :
    ((compare (-52) exponent).then (compare (2 ^ 52) mantissa)) = .lt ↔
      1 < size mantissa exponent := by
  have oneCanonical : IsCanonical (2 ^ 52) (-52) :=
    ⟨by decide, by decide, Or.inl (Nat.le_refl _)⟩
  rw [Ordering.then_eq_lt, compare_lt_iff_lt, compare_eq_iff_eq, compare_lt_iff_lt, ← size_one]
  rcases lt_trichotomy exponent (-52) with less | same | more
  · have unit : (0 : ℚ) < 2 ^ ((-52 : Int) - 1) := by positivity
    have below := (size_lt_of_exponent_lt oneCanonical canonical less).1
    constructor
    · omega
    · intro above
      linarith
  · rw [same, size_lt_size_iff]
    omega
  · have unit : (0 : ℚ) < 2 ^ (exponent - 1) := by positivity
    rcases size_lt_of_exponent_lt canonical oneCanonical more with ⟨below, filled⟩
    have sized := size_mono exponent filled
    refine iff_of_true (Or.inl more) ?_
    linarith

theorem eq_of_then_eq {mantissa other : Nat} {exponent power : Int}
    (same : (compare exponent power).then (compare mantissa other) = .eq) :
    mantissa = other ∧ exponent = power := by
  rw [Ordering.then_eq_eq, compare_eq_iff_eq, compare_eq_iff_eq] at same
  exact same.symm

theorem parts_eq_of_compare {first second : UnpackedFloat}
    (compared : first.compare second = some .eq) :
    partsMagnitude first = partsMagnitude second ∧
      (partsNegative first = partsNegative second ∨
        partsMagnitude first = .finite 0 (-1074)) := by
  cases first with
  | notANumber => cases compared
  | infinity sign =>
      cases second with
      | infinity other =>
          cases sign <;> cases other <;> first | exact ⟨rfl, Or.inl rfl⟩ | cases compared
      | _ => cases sign <;> cases compared
  | zero sign =>
      cases second with
      | zero other => exact ⟨rfl, Or.inr rfl⟩
      | notANumber => cases compared
      | infinity other => cases other <;> cases compared
      | finite other digits power digitsPos => cases other <;> cases compared
  | finite sign mantissa exponent positive =>
      cases second with
      | notANumber => cases sign <;> cases compared
      | infinity other => cases sign <;> cases other <;> cases compared
      | zero other => cases sign <;> cases compared
      | finite other digits power digitsPos =>
          cases sign with
          | negative =>
              cases other with
              | positive => cases compared
              | negative =>
                  have swapped : ((compare exponent power).then (compare mantissa digits)).swap =
                      .eq := Option.some.inj compared
                  rcases eq_of_then_eq (Ordering.swap_inj.mp swapped) with ⟨rfl, rfl⟩
                  exact ⟨rfl, Or.inl rfl⟩
          | positive =>
              cases other with
              | negative => cases compared
              | positive =>
                  rcases eq_of_then_eq (Option.some.inj compared) with ⟨rfl, rfl⟩
                  exact ⟨rfl, Or.inl rfl⟩

/-- Doubles that are equal have the same magnitude and, if they are not zero, the same
sign. -/
theorem magnitude_eq_of_beq {x y : Float} (equal : (x == y) = true) :
    magnitude x = magnitude y ∧ (isNegative x = isNegative y ∨ isZero x = true) := by
  have compared : x.toModel.unpack.compare y.toModel.unpack = some .eq := by
    have parts : x.toModel.unpack.beq y.toModel.unpack = true := equal
    exact beq_iff_eq.mp parts
  rw [isZero, beq_iff_eq, magnitude_eq, magnitude_eq, isNegative_eq, isNegative_eq]
  exact parts_eq_of_compare compared

theorem magnitude_of_isNaN {x : Float} (isNaN : x.isNaN = true) :
    magnitude x = .nan ∧ isNegative x = false := by
  have notNumber : x.toModel.unpack.isNaN = true := isNaN
  rw [magnitude_eq, isNegative_eq]
  generalize x.toModel.unpack = parts at *
  cases parts with
  | notANumber => exact ⟨rfl, rfl⟩
  | _ => cases notNumber

end Decimal
end Artboard
