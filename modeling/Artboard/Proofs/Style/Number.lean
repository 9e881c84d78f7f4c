import Artboard.Proofs.Decimal.Bits
import Artboard.Proofs.Decimal.Notation
import Artboard.Style.Value

/-!
# Numbers and lengths in style sheets

A number in a style sheet is the shortest decimal of a double, where zero has no sign.  So
a finite double reads back as a number that rounds to it, and what is not finite reads back
as the name that is written for it.
-/

namespace Artboard
namespace Decimal

/-! ## What is written -/

/-- What a notation says: a number, or the name of something that is none. -/
inductive Reading where
  | nan
  | infinite (negative : Bool)
  | finite (number : ℚ)
  deriving DecidableEq, Repr

def reading? (text : List Char) : Option Reading :=
  if text = "NaN".toList then some .nan
  else if text = "inf".toList then some (.infinite false)
  else if text = "-inf".toList then some (.infinite true)
  else (decimal? text).map .finite

/-- What is read says a double, if it denotes it or names it. -/
def Reading.Says (x : Float) : Reading → Prop
  | .nan => magnitude x = .nan
  | .infinite negative => magnitude x = .infinite ∧ isNegative x = negative
  | .finite number => Denotes number x

theorem reading?_of_decimal? {text : List Char} {number : ℚ}
    (read : decimal? text = some number) : reading? text = some (.finite number) := by
  have names : decimal? "NaN".toList = none ∧ decimal? "inf".toList = none ∧
      decimal? "-inf".toList = none := by decide
  rw [reading?, if_neg, if_neg, if_neg, read]
  · rfl
  · rintro rfl
    rw [names.2.2] at read
    cases read
  · rintro rfl
    rw [names.2.1] at read
    cases read
  · rintro rfl
    rw [names.1] at read
    cases read

/-- The notation of a double says it. -/
theorem reading?_plain (x : Float) :
    ∃ reading, reading? (plain x).toList = some reading ∧ reading.Says x := by
  cases size : magnitude x with
  | nan =>
      have read : reading? "NaN".toList = some .nan := by decide
      rw [plain, size]
      exact ⟨.nan, read, size⟩
  | infinite =>
      rw [plain, size]
      dsimp only
      cases negative : isNegative x with
      | true => exact ⟨.infinite true, by decide, size, negative⟩
      | false => exact ⟨.infinite false, by decide, size, negative⟩
  | finite mantissa exponent =>
      exact ⟨_, reading?_of_decimal? (decimal?_plain size), denotes_shortest size⟩

/-- The notation shows nothing of a double but its magnitude and its sign. -/
theorem plain_eq {x y : Float} (magnitudes : magnitude x = magnitude y)
    (signs : isNegative x = isNegative y) : plain x = plain y := by
  rw [plain, plain, magnitudes, signs]

theorem Denotes.congr {number : ℚ} {x y : Float} (same : value? x = value? y)
    (denotes : Denotes number x) : Denotes number y := by
  rcases denotes with ⟨rounds, positive, negative⟩
  rw [same] at rounds positive negative
  exact ⟨rounds, positive, negative⟩

end Decimal

namespace Style

open Decimal (Reading reading? magnitude isNegative isZero value?)

/-- A number shows nothing of a double but its magnitude and, if it is not zero, its sign. -/
theorem number_congr {x y : Float} (magnitudes : magnitude x = magnitude y)
    (signs : isNegative x = isNegative y ∨ isZero x = true) : number x = number y := by
  have zeros : isZero x = isZero y := by
    rw [isZero, magnitudes, ← isZero]
  apply Decimal.plain_eq
  · rw [Decimal.magnitude_add_zero, Decimal.magnitude_add_zero, magnitudes]
  · rw [Decimal.isNegative_add_zero, Decimal.isNegative_add_zero, ← zeros]
    rcases signs with same | zero
    · rw [same]
    · rw [zero, Bool.not_true, Bool.and_false, Bool.and_false]

theorem number_of_not_isZero {x : Float} (notZero : isZero x = false) :
    number x = Decimal.plain x := by
  have sign := Decimal.isNegative_add_zero x
  rw [notZero, Bool.not_false, Bool.and_true] at sign
  exact Decimal.plain_eq (Decimal.magnitude_add_zero x) sign

theorem number_of_isZero {x : Float} (zero : isZero x = true) : number x = Decimal.plain 0 := by
  have sign := Decimal.isNegative_add_zero x
  rw [zero, Bool.not_true, Bool.and_false] at sign
  exact Decimal.plain_eq ((Decimal.magnitude_add_zero x).trans (beq_iff_eq.mp zero)) sign

/-- A number in a style sheet says its double. -/
theorem reading?_number (x : Float) :
    ∃ reading, reading? (number x).toList = some reading ∧ reading.Says x := by
  cases zero : isZero x with
  | false =>
      rw [number_of_not_isZero zero]
      exact Decimal.reading?_plain x
  | true =>
      have noSize : magnitude 0 = .finite 0 (-1074) := by decide
      have valued : value? 0 = value? x := by
        rw [Decimal.value?_of_zero noSize, Decimal.value?_of_zero (beq_iff_eq.mp zero)]
      have read := Decimal.reading?_of_decimal? (Decimal.decimal?_plain noSize)
      rw [number_of_isZero zero]
      exact ⟨_, read, (Decimal.denotes_shortest noSize).congr valued⟩

open Decimal (IsCanonical shortest size)

/-- A positive value of a double that is its own shortest decimal. -/
def IsExact (value : ℚ) : Prop :=
  ∃ mantissa exponent, IsCanonical mantissa exponent ∧ 0 < mantissa ∧
    size mantissa exponent = value ∧ (shortest .up mantissa exponent).value = value

theorem IsExact.isValue {value : ℚ} (exact : IsExact value) : Decimal.IsValue value := by
  rcases exact with ⟨mantissa, exponent, canonical, -, sized, -⟩
  exact sized ▸ Decimal.isValue_size canonical

/-- An exact value is read back as it is. -/
theorem reading?_number_of_exact {x : Float} {value : ℚ} (exact : IsExact value)
    (valued : value? x = some value) : reading? (number x).toList = some (.finite value) := by
  rcases exact with ⟨mantissa, exponent, canonical, positive, rfl, decimal⟩
  have sizePos : 0 < size mantissa exponent := by
    rw [← Decimal.size_zero exponent]
    exact Decimal.size_lt_size_iff.mpr positive
  rcases Decimal.exists_finite_of_value? valued with ⟨digits, power, finite, same⟩
  have nonneg := Decimal.size_nonneg digits power
  have noSign : Decimal.isNegative x = false := by
    by_contra signed
    rw [Bool.not_eq_false] at signed
    rw [if_pos signed] at same
    linarith
  rw [noSign, if_neg Bool.false_ne_true] at same
  rcases Decimal.eq_of_size_eq canonical (Decimal.isCanonical_of_magnitude finite) same with
    ⟨rfl, rfl⟩
  have read := Decimal.decimal?_plain finite
  rw [noSign, if_neg Bool.false_ne_true, decimal] at read
  have notZero : isZero x = false := by
    rw [isZero, finite]
    apply beq_eq_false_iff_ne.mpr
    intro zero
    cases zero
    exact absurd positive (Nat.lt_irrefl 0)
  rw [number_of_not_isZero notZero]
  exact Decimal.reading?_of_decimal? read

theorem isExact_one : IsExact 1 := by
  have decimal : shortest .up (2 ^ 52) (-52) = ⟨1, 0⟩ := by decide +kernel
  refine ⟨2 ^ 52, -52, ⟨by decide, by decide, Or.inl (by decide)⟩, by decide, ?_, ?_⟩
  · rw [size]
    norm_num
  · rw [decimal, Decimal.Scaled.value]
    norm_num

theorem isExact_thousand : IsExact 1000 := by
  have decimal : shortest .up (1000 * 2 ^ 43) (-43) = ⟨1, 3⟩ := by decide +kernel
  refine ⟨1000 * 2 ^ 43, -43, ⟨by decide, by decide, Or.inl (by decide)⟩, by decide, ?_, ?_⟩
  · rw [size]
    norm_num
  · rw [decimal, Decimal.Scaled.value]
    norm_num

end Style
end Artboard
