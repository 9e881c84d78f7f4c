import Artboard.Decimal.Rounding
import Artboard.Proofs.Decimal.Value

/-!
# Nearest whole numbers

Rounding adds a half and drops what is behind the point, so it finds the whole number
nearest to the size of a double, where halves go up.  Because the sign is put back
afterwards, halves go away from zero.
-/

namespace Artboard
namespace Decimal

/-- A whole number is nearest to a number. Where two are as near, it is the one further from
zero. -/
structure IsNearest (number : ℚ) (whole : Int) : Prop where
  near : |number - whole| ≤ 1 / 2
  away : |number - whole| = 1 / 2 → |number| < |(whole : ℚ)|

theorem IsNearest.neg {number : ℚ} {whole : Int} (nearest : IsNearest number whole) :
    IsNearest (-number) (-whole) := by
  have mirrored : |-number - ((-whole : Int) : ℚ)| = |number - whole| := by
    rw [← abs_neg, Int.cast_neg]
    congr 1
    ring
  constructor
  · rw [mirrored]
    exact nearest.near
  · intro half
    rw [mirrored] at half
    rw [abs_neg, Int.cast_neg, abs_neg]
    exact nearest.away half

/-- Whole bounds of a number are bounds of the whole number nearest to it. -/
theorem IsNearest.bounds {number : ℚ} {whole bound : Int} (nearest : IsNearest number whole)
    (nonneg : 0 ≤ number) (bounded : number ≤ bound) : 0 ≤ whole ∧ whole ≤ bound := by
  rcases abs_le.mp nearest.near with ⟨below, above⟩
  have lower : (-1 : ℚ) < whole := by linarith
  have upper : (whole : ℚ) < bound + 1 := by linarith
  have wholeLower : -1 < whole := by exact_mod_cast lower
  have wholeUpper : whole < bound + 1 := by exact_mod_cast upper
  omega

/-- Halves go up. -/
theorem isNearest_of_le_of_lt {number : ℚ} {whole : Nat} (nonneg : 0 ≤ number)
    (lower : whole - 1 / 2 ≤ number) (upper : number < whole + 1 / 2) :
    IsNearest number whole := by
  have wholeNonneg : (0 : ℚ) ≤ whole := Nat.cast_nonneg whole
  constructor
  · rw [Int.cast_natCast, abs_le]
    constructor <;> linarith
  · intro half
    rw [Int.cast_natCast] at half ⊢
    rw [abs_of_nonneg nonneg, abs_of_nonneg wholeNonneg]
    rcases abs_cases (number - whole) with ⟨isSelf, -⟩ | ⟨isNeg, -⟩ <;> linarith

theorem size_mul_half (mantissa shift : Nat) :
    size mantissa (Int.negSucc shift) * (2 * 2 ^ shift) = mantissa := by
  have power : (2 : ℚ) ^ (Int.negSucc shift) = (2 * 2 ^ shift)⁻¹ := by
    rw [zpow_negSucc, pow_succ']
  rw [size, power, mul_assoc, inv_mul_cancel₀ (by positivity), mul_one]

theorem isNearest_nearestNat (mantissa : Nat) (exponent : Int) :
    IsNearest (size mantissa exponent) (nearestNat mantissa exponent) := by
  cases exponent with
  | ofNat shift =>
      have whole : size mantissa (Int.ofNat shift) = nearestNat mantissa (Int.ofNat shift) := by
        rw [nearestNat, Nat.shiftLeft_eq, size]
        push_cast
        rw [Int.ofNat_eq_natCast, zpow_natCast]
      apply isNearest_of_le_of_lt (size_nonneg _ _)
      · linarith
      · linarith
  | negSucc shift =>
      have unit : (0 : ℚ) < 2 * 2 ^ shift := by positivity
      have sized := size_mul_half mantissa shift
      have written : nearestNat mantissa (Int.negSucc shift) =
          (mantissa + 2 ^ shift) / (2 * 2 ^ shift) := by
        rw [nearestNat, Nat.shiftLeft_eq, one_mul, Nat.shiftRight_eq_div_pow, pow_succ']
      have below : (nearestNat mantissa (Int.negSucc shift) * (2 * 2 ^ shift) : ℚ) ≤
          mantissa + 2 ^ shift := by
        rw [written]
        exact_mod_cast Nat.div_mul_le_self (mantissa + 2 ^ shift) (2 * 2 ^ shift)
      have above : (mantissa + 2 ^ shift : ℚ) <
          nearestNat mantissa (Int.negSucc shift) * (2 * 2 ^ shift) + 2 * 2 ^ shift := by
        rw [written]
        exact_mod_cast Nat.lt_div_mul_add (a := mantissa + 2 ^ shift)
          (show 0 < 2 * 2 ^ shift by positivity)
      apply isNearest_of_le_of_lt (size_nonneg _ _)
      · apply le_of_mul_le_mul_right _ unit
        linarith
      · apply lt_of_mul_lt_mul_right _ unit.le
        linarith

/-- What a double is rounded to in a signed word of sixty-four bits. What is not a number
counts as zero. -/
structure IsWordOf (x : Float) (whole : Int) : Prop where
  finite : ∀ number, value? x = some number → ∃ nearest, IsNearest number nearest ∧
    whole = max (-2 ^ 63) (min (2 ^ 63 - 1) nearest)
  infinite : magnitude x = .infinite → whole = if isNegative x then -2 ^ 63 else 2 ^ 63 - 1
  nan : magnitude x = .nan → whole = 0

theorem isWordOf_nearestInt (x : Float) : IsWordOf x (nearestInt x) := by
  have least : minWord = -2 ^ 63 := by decide
  have largest : maxWord = 2 ^ 63 - 1 := by decide
  constructor
  · intro number valued
    rcases exists_finite_of_value? valued with ⟨mantissa, exponent, finite, rfl⟩
    have nearest := isNearest_nearestNat mantissa exponent
    rw [nearestInt, finite]
    dsimp only
    rw [least, largest]
    split_ifs with negative
    · exact ⟨_, nearest.neg, by omega⟩
    · exact ⟨_, nearest, by omega⟩
  · intro infinite
    rw [nearestInt, infinite]
    dsimp only
    rw [least, largest]
  · intro nan
    rw [nearestInt, nan]

end Decimal
end Artboard
