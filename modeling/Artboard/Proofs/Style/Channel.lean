import Artboard.Proofs.Decimal.Product
import Artboard.Proofs.Decimal.Rounding
import Artboard.Proofs.Style.Number

/-!
# Channels of colours

A colour has channels and an alpha value that count from zero to one, and what is outside is
kept at the nearer end.  A channel is written as the nearest of two hundred and fifty-five
steps, and an alpha value as the nearest of a hundred, with a point in front of the last two
digits.  Only the product with the number of steps is a double; apart from that the numbers
are exact.
-/

namespace Artboard
namespace Style

open Decimal (Reading reading? Magnitude magnitude isNegative size value? IsValue RoundsTo
  IsNearest IsFactor)

/-- What a double counts for where numbers are kept between zero and one. -/
def kept? (x : Float) : Option ℚ :=
  match magnitude x with
  | .nan => none
  | .infinite => some (if isNegative x then 0 else 1)
  | .finite mantissa exponent =>
    some (max 0 (min 1 (if isNegative x then -size mantissa exponent else size mantissa exponent)))

/-- A number of steps is the nearest one to a share of a scale, where the product with the
scale is a double and a half goes up. -/
def IsNearestStep (scale share : ℚ) (steps : Int) : Prop :=
  ∃ product, IsValue product ∧ RoundsTo (scale * share) product ∧ IsNearest product steps

/-- What is read says a channel. What is not a number counts as zero. -/
structure SaysChannel (x : Float) (steps : Int) : Prop where
  share : ∀ share, kept? x = some share → IsNearestStep 255 share steps
  nan : kept? x = none → steps = 0

/-- What is read says an alpha value in hundredths, or that it is not a number. -/
structure SaysAlpha (x : Float) (reading : Reading) : Prop where
  share : ∀ share, kept? x = some share →
    ∃ steps : Int, IsNearestStep 100 share steps ∧ reading = .finite (steps / 100)
  nan : kept? x = none → reading = .nan

/-! ## Keeping -/

theorem kept?_bounds {x : Float} {share : ℚ} (kept : kept? x = some share) :
    0 ≤ share ∧ share ≤ 1 := by
  unfold kept? at kept
  split at kept
  · cases kept
  · cases kept
    split_ifs <;> norm_num
  · cases kept
    exact ⟨le_max_left _ _, max_le (by norm_num) (min_le_left _ _)⟩

theorem unit_of_nan {x : Float} (nan : magnitude x = .nan) : unit x = x := by
  have parts := Decimal.unpack_of_nan nan
  have unsigned : isNegative x = false := by
    rw [Decimal.isNegative_eq, parts]
    rfl
  have notAbove : ¬1.0 < x := by
    rw [Decimal.one_lt_iff parts]
    intro less
    cases less
  rw [unit, if_neg (Decimal.not_lt_zero_of_unsigned unsigned), if_neg notAbove]

theorem value?_zero : value? 0.0 = some 0 :=
  Decimal.value?_of_zero (show magnitude 0.0 = .finite 0 (-1074) by decide)

theorem value?_one : value? 1.0 = some 1 := by
  have finite : magnitude 1.0 = .finite (2 ^ 52) (-52) := by decide
  have unsigned : isNegative 1.0 = false := by decide
  rw [Decimal.value?_of_finite finite, unsigned, if_neg Bool.false_ne_true, Decimal.size_one]

/-- A positive number is kept at one if it is above. -/
theorem value?_unit_of_positive {x : Float} {mantissa : Nat} {exponent : Int}
    {positive : 0 < mantissa}
    (parts : x.toModel.unpack = .finite .positive mantissa exponent positive) :
    value? (unit x) = some (min 1 (size mantissa exponent)) := by
  have magnitudes := Decimal.magnitude_eq x
  have negative := Decimal.isNegative_eq x
  rw [parts] at magnitudes negative
  have finite : magnitude x = .finite mantissa exponent := magnitudes
  have unsigned : isNegative x = false := negative
  have large : 1.0 < x ↔ 1 < size mantissa exponent :=
    (Decimal.one_lt_iff_of_finite parts).trans
      (Decimal.one_lt_size_iff (Decimal.isCanonical_of_magnitude finite))
  rw [unit, if_neg (Decimal.not_lt_zero_of_unsigned unsigned)]
  by_cases above : 1 < size mantissa exponent
  · rw [if_pos (large.mpr above), value?_one, min_eq_left above.le]
  · rw [if_neg (above ∘ large.mp), Decimal.value?_of_finite finite, unsigned,
      if_neg Bool.false_ne_true, min_eq_right (not_lt.mp above)]

theorem value?_unit (x : Float) : value? (unit x) = kept? x := by
  have magnitudes := Decimal.magnitude_eq x
  have negative := Decimal.isNegative_eq x
  cases parts : x.toModel.unpack with
  | notANumber =>
      rw [parts] at magnitudes
      rw [unit_of_nan magnitudes, value?, kept?, magnitudes]
      rfl
  | infinity sign =>
      rw [parts] at magnitudes negative
      rw [unit, kept?, magnitudes, negative]
      cases sign with
      | negative =>
          rw [if_pos ((Decimal.lt_zero_iff parts).mpr rfl), value?_zero]
          rfl
      | positive =>
          rw [if_neg (Decimal.not_lt_zero_of_unsigned negative),
            if_pos ((Decimal.one_lt_iff parts).mpr rfl), value?_one]
          rfl
  | zero sign =>
      rw [parts] at magnitudes
      have zero : magnitude x = .finite 0 (-1074) := magnitudes
      have notBelow : ¬x < 0.0 := by
        rw [Decimal.lt_zero_iff parts]
        intro less
        cases less
      have notAbove : ¬1.0 < x := by
        rw [Decimal.one_lt_iff parts]
        intro less
        cases less
      rw [unit, kept?, if_neg notBelow, if_neg notAbove, Decimal.value?_of_zero zero, zero]
      dsimp only
      rw [Decimal.size_zero, neg_zero, ite_self, min_eq_right zero_le_one, max_self]
  | finite sign mantissa exponent positive =>
      rw [parts] at magnitudes negative
      have finite : magnitude x = .finite mantissa exponent := magnitudes
      have sized := Decimal.size_nonneg mantissa exponent
      cases sign with
      | negative =>
          have isSigned : isNegative x = true := negative
          rw [unit, kept?, finite, isSigned]
          dsimp only
          rw [if_pos ((Decimal.lt_zero_iff parts).mpr rfl), value?_zero, if_pos rfl,
            max_eq_left ((min_le_right _ _).trans (neg_nonpos.mpr sized))]
      | positive =>
          have unsigned : isNegative x = false := negative
          rw [value?_unit_of_positive parts, kept?, finite, unsigned]
          dsimp only
          rw [if_neg Bool.false_ne_true, max_eq_right (le_min zero_le_one sized)]

/-! ## Steps -/

section

variable {x y : Float} {mantissa : Nat} {exponent : Int} {share : ℚ}

/-- The product of a share and a scale is a double up to the scale. -/
theorem exists_product (factor : IsFactor y mantissa exponent) (kept : kept? x = some share) :
    ∃ product, value? (unit x * y) = some product ∧
      RoundsTo (size mantissa exponent * share) product ∧
        0 ≤ product ∧ product ≤ size mantissa exponent := by
  rcases kept?_bounds kept with ⟨nonneg, small⟩
  have valued := (value?_unit x).trans kept
  rcases factor.exists_value?_mul valued nonneg small with ⟨product, isProduct, positive, rounds⟩
  rw [mul_comm] at rounds
  refine ⟨product, isProduct, rounds, positive, ?_⟩
  apply rounds.le_of_le (Decimal.isValue_size (Decimal.isCanonical_of_magnitude factor.finite))
  exact mul_le_of_le_one_right (Decimal.size_nonneg _ _) small

theorem magnitude_of_kept?_eq_none (lost : kept? x = none) : magnitude (unit x) = .nan := by
  have nan : magnitude x = .nan := by
    unfold kept? at lost
    split at lost
    · next nan => exact nan
    · cases lost
    · cases lost
  rw [unit_of_nan nan]
  exact nan

end

theorem isFactor_channel : IsFactor 255.0 (255 * 2 ^ 45) (-45) :=
  ⟨by decide, by decide, by decide, by decide, by decide⟩

theorem isFactor_alpha : IsFactor 100.0 (100 * 2 ^ 46) (-46) :=
  ⟨by decide, by decide, by decide, by decide, by decide⟩

theorem size_channel : size (255 * 2 ^ 45) (-45) = 255 := by
  rw [size]
  norm_num

theorem size_alpha : size (100 * 2 ^ 46) (-46) = 100 := by
  rw [size]
  norm_num

theorem saysChannel_channel (x : Float) : SaysChannel x (channel x) := by
  have word := Decimal.isWordOf_nearestInt (unit x * 255.0)
  constructor
  · intro share kept
    rcases exists_product isFactor_channel kept with ⟨product, valued, rounds, nonneg, bounded⟩
    rw [size_channel] at rounds bounded
    rcases word.finite product valued with ⟨nearest, isNearest, rounded⟩
    have bounds : 0 ≤ nearest ∧ nearest ≤ 255 :=
      isNearest.bounds nonneg (by exact_mod_cast bounded)
    have same : channel x = nearest := by
      rw [channel, rounded]
      omega
    rw [same]
    exact ⟨product, Decimal.isValue_of_value? valued, rounds, isNearest⟩
  · intro lost
    exact word.nan (isFactor_channel.magnitude_mul_of_nan (magnitude_of_kept?_eq_none lost))

/-! ## Hundredths -/

/-- Each number of hundredths is written with a point in front of its last two digits. -/
theorem reading?_hundredths : ∀ steps : Fin 101,
    reading? (Decimal.plain (Float.ofNat steps / 100.0)).toList =
      some (.finite ((steps : Nat) / 100)) := by
  decide +kernel

theorem reading?_negativeZero :
    reading? (Decimal.plain (-Float.ofNat 0 / 100.0)).toList = some (.finite 0) := by
  decide +kernel

/-- A number that is not negative is rounded to a whole number, and only zero may have a
sign. -/
theorem round_cases {x : Float} {number : ℚ} (valued : value? x = some number)
    (nonneg : 0 ≤ number) :
    ∃ whole : Nat, IsNearest number whole ∧
      (Decimal.round x = Float.ofNat whole ∨ whole = 0 ∧ Decimal.round x = -Float.ofNat 0) := by
  rcases Decimal.exists_finite_of_value? valued with ⟨mantissa, exponent, finite, rfl⟩
  have nearest := Decimal.isNearest_nearestNat mantissa exponent
  rw [Decimal.round, finite]
  dsimp only
  cases negative : isNegative x with
  | false =>
      rw [if_neg Bool.false_ne_true, if_neg Bool.false_ne_true]
      exact ⟨_, nearest, Or.inl rfl⟩
  | true =>
      rw [negative, if_pos rfl] at nonneg
      have zero : size mantissa exponent = 0 :=
        le_antisymm (neg_nonneg.mp nonneg) (Decimal.size_nonneg _ _)
      rw [if_pos rfl, if_pos rfl, zero, neg_zero]
      rw [zero] at nearest
      have none : Decimal.nearestNat mantissa exponent = 0 := by
        have bounds : 0 ≤ (Decimal.nearestNat mantissa exponent : Int) ∧
            (Decimal.nearestNat mantissa exponent : Int) ≤ 0 :=
          nearest.bounds (le_refl 0) (by rw [Int.cast_zero])
        omega
      rw [none] at nearest ⊢
      exact ⟨0, nearest, Or.inr ⟨rfl, rfl⟩⟩

/-- An alpha value in hundredths says what it is made from. -/
theorem reading?_alpha (x : Float) :
    ∃ reading, reading? (alpha x).toList = some reading ∧ SaysAlpha x reading := by
  cases kept : kept? x with
  | none =>
      have product := isFactor_alpha.magnitude_mul_of_nan (magnitude_of_kept?_eq_none kept)
      have rounded : Decimal.round (unit x * 100.0) = unit x * 100.0 := by
        rw [Decimal.round, product]
      have quotient := Decimal.magnitude_div_of_nan 100.0 product
      have written : alpha x = "NaN" := by
        rw [alpha, hundredths, rounded, Decimal.plain, quotient]
      have read : reading? "NaN".toList = some .nan := by decide
      rw [written]
      refine ⟨.nan, read, ⟨?_, fun _ => rfl⟩⟩
      intro share same
      rw [kept] at same
      cases same
  | some share =>
      rcases exists_product isFactor_alpha kept with ⟨product, valued, rounds, nonneg, bounded⟩
      rw [size_alpha] at rounds bounded
      rcases round_cases valued nonneg with ⟨steps, nearest, rounded⟩
      have bounds : 0 ≤ (steps : Int) ∧ (steps : Int) ≤ 100 :=
        nearest.bounds nonneg (by exact_mod_cast bounded)
      refine ⟨.finite (steps / 100), ?_, ⟨?_, ?_⟩⟩
      · rw [alpha, hundredths]
        rcases rounded with positive | ⟨rfl, negative⟩
        · rw [positive]
          exact reading?_hundredths ⟨steps, by omega⟩
        · rw [negative, reading?_negativeZero, Nat.cast_zero, zero_div]
      · intro other same
        rw [kept] at same
        cases same
        refine ⟨steps, ⟨product, Decimal.isValue_of_value? valued, rounds, nearest⟩, ?_⟩
        rw [Int.cast_natCast]
      · intro none
        rw [kept] at none
        cases none

end Style
end Artboard
