import Artboard.Proofs.Decimal.Bits

/-!
# Products of doubles

A product of mantissas has more places than a double.  The places behind are lost one by
one, and two bits keep how what is lost compares with half of the last place.  So the
mantissa that is left is the nearest one, and the even one in the middle, and the product of
two doubles is the double that the product of their values rounds to.
-/

namespace Artboard
namespace Decimal

open Float.Model (UnpackedFloat)
open Float.Model.UnpackedFloat (Sign ExtendedMantissa roundWithAccuracy)

/-! ## The nearest mantissa -/

/-- A whole number is nearest to a quotient, and even where another one is as near. -/
structure IsNearestEven (numerator unit rounded : Nat) : Prop where
  lower : 2 * (unit * rounded) ≤ 2 * numerator + unit
  upper : 2 * numerator ≤ 2 * (unit * rounded) + unit
  strict : rounded % 2 ≠ 0 → 2 * (unit * rounded) < 2 * numerator + unit ∧
    2 * numerator < 2 * (unit * rounded) + unit

section

variable {rest unit : Nat}

theorem IsNearestEven.down (quotient : Nat) (less : 2 * rest < unit) :
    IsNearestEven (rest + unit * quotient) unit quotient := by
  constructor <;> omega

theorem IsNearestEven.up (quotient : Nat) (less : rest < unit) (more : unit < 2 * rest) :
    IsNearestEven (rest + unit * quotient) unit (quotient + 1) := by
  have next : unit * (quotient + 1) = unit * quotient + unit := Nat.mul_succ unit quotient
  constructor <;> omega

theorem IsNearestEven.middle (quotient : Nat) (half : 2 * rest = unit) :
    IsNearestEven (rest + unit * quotient) unit (quotient + quotient % 2) := by
  rcases Nat.mod_two_eq_zero_or_one quotient with even | odd
  · rw [even, Nat.add_zero]
    constructor <;> omega
  · have next : unit * (quotient + 1) = unit * quotient + unit := Nat.mul_succ unit quotient
    rw [odd]
    constructor <;> omega

/-- What is not above a quotient is not above the whole number nearest to it. -/
theorem IsNearestEven.le_of_le {numerator rounded bound : Nat}
    (nearest : IsNearestEven numerator unit rounded) (unitPos : 0 < unit)
    (below : bound * unit ≤ numerator) : bound ≤ rounded := by
  by_contra less
  have next := Nat.mul_le_mul_left unit (Nat.succ_le_of_lt (Nat.lt_of_not_le less))
  have upper := nearest.upper
  rw [Nat.mul_succ, Nat.mul_comm unit bound] at next
  omega

theorem IsNearestEven.le_of_lt {numerator rounded bound : Nat}
    (nearest : IsNearestEven numerator unit rounded) (above : numerator < bound * unit) :
    rounded ≤ bound := by
  by_contra more
  have next := Nat.mul_le_mul_left unit (Nat.succ_le_of_lt (Nat.lt_of_not_le more))
  have lower := nearest.lower
  rw [Nat.mul_succ, Nat.mul_comm unit bound] at next
  omega

end

section

variable (mantissa shift : Nat)

theorem half_le_lost_iff :
    2 ^ (shift + 1) ≤ 2 * (mantissa % 2 ^ (shift + 1)) ↔ mantissa / 2 ^ shift % 2 ≠ 0 := by
  have lost : mantissa % 2 ^ shift < 2 ^ shift := Nat.mod_lt _ (by positivity)
  rw [Nat.mod_pow_succ, pow_succ']
  rcases Nat.mod_two_eq_zero_or_one (mantissa / 2 ^ shift) with zero | one
  · rw [zero]
    omega
  · rw [one]
    omega

theorem beside_half_succ :
    2 * (mantissa % 2 ^ (shift + 1)) % 2 ^ (shift + 1) = 2 * (mantissa % 2 ^ shift) := by
  have lost : mantissa % 2 ^ shift < 2 ^ shift := Nat.mod_lt _ (by positivity)
  have doubled : 2 * (mantissa % 2 ^ (shift + 1)) =
      2 * (mantissa % 2 ^ shift) + 2 ^ (shift + 1) * (mantissa / 2 ^ shift % 2) := by
    rw [Nat.mod_pow_succ]
    ring
  rw [doubled, Nat.add_mul_mod_self_left, Nat.mod_eq_of_lt (by rw [pow_succ']; omega)]

/-- What is lost is nothing if it is less than half of the last place and nothing beside
that half. -/
theorem lost_ne_zero_iff :
    2 ^ shift ≤ 2 * (mantissa % 2 ^ shift) ∨ 2 * (mantissa % 2 ^ shift) % 2 ^ shift ≠ 0 ↔
      2 * (mantissa % 2 ^ shift) ≠ 0 := by
  have unit : 0 < 2 ^ shift := by positivity
  by_cases half : 2 ^ shift ≤ 2 * (mantissa % 2 ^ shift)
  · omega
  · rw [Nat.mod_eq_of_lt (Nat.lt_of_not_le half)]
    omega

/-- The first bit behind a shifted mantissa says whether what is lost reaches half of the
last place, the second one whether there is anything beside that half. -/
theorem shiftRight_eq :
    (ExtendedMantissa.mk mantissa false false) >>> shift =
      ⟨mantissa / 2 ^ shift, decide (2 ^ shift ≤ 2 * (mantissa % 2 ^ shift)),
        decide (2 * (mantissa % 2 ^ shift) % 2 ^ shift ≠ 0)⟩ := by
  induction shift with
  | zero => simp [HShiftRight.hShiftRight, Nat.repeat, Nat.mod_one]
  | succ shift inductionHypothesis =>
      have step : (ExtendedMantissa.mk mantissa false false) >>> (shift + 1) =
          ((ExtendedMantissa.mk mantissa false false) >>> shift).shiftRightOne := rfl
      have halved : mantissa / 2 ^ (shift + 1) = mantissa / 2 ^ shift / 2 := by
        rw [Nat.div_div_eq_div_mul, pow_succ]
      have bit : (mantissa / 2 ^ shift % 2 != 0) = decide (mantissa / 2 ^ shift % 2 ≠ 0) := by
        apply Bool.eq_iff_iff.mpr
        rw [bne_iff_ne, decide_eq_true_iff]
      rw [step, inductionHypothesis, ExtendedMantissa.shiftRightOne, halved, beside_half_succ,
        ← Bool.decide_or, bit]
      simp only [half_le_lost_iff, lost_ne_zero_iff]

/-- A shifted mantissa is rounded to the nearest whole number, in the middle to the even
one. -/
theorem isNearestEven_roundedMantissa :
    IsNearestEven mantissa (2 ^ shift)
      ((ExtendedMantissa.mk mantissa false false) >>> shift).roundedMantissa := by
  have whole := Nat.mod_add_div mantissa (2 ^ shift)
  have lost : mantissa % 2 ^ shift < 2 ^ shift := Nat.mod_lt _ (by positivity)
  rw [shiftRight_eq, ExtendedMantissa.roundedMantissa]
  by_cases half : 2 ^ shift ≤ 2 * (mantissa % 2 ^ shift)
  · rw [decide_eq_true half]
    by_cases beside : 2 * (mantissa % 2 ^ shift) % 2 ^ shift ≠ 0
    · have above : 2 ^ shift ≠ 2 * (mantissa % 2 ^ shift) := by
        intro same
        rw [← same, Nat.mod_self] at beside
        exact beside rfl
      have up := IsNearestEven.up (mantissa / 2 ^ shift) lost (by omega)
      rw [whole] at up
      rw [decide_eq_true beside]
      exact up
    · have exactHalf : 2 * (mantissa % 2 ^ shift) = 2 ^ shift := by
        rw [not_not, Nat.mod_eq_sub_mod half, Nat.mod_eq_of_lt (by omega)] at beside
        omega
      have middle := IsNearestEven.middle (mantissa / 2 ^ shift) exactHalf
      rw [whole] at middle
      rw [decide_eq_false beside]
      exact middle
  · have down := IsNearestEven.down (mantissa / 2 ^ shift) (Nat.lt_of_not_le half)
    rw [whole] at down
    rw [decide_eq_false half]
    cases decide (2 * (mantissa % 2 ^ shift) % 2 ^ shift ≠ 0) <;> exact down

end

/-! ## The interval of a rounded mantissa -/

section

variable {mantissa rounded shift : Nat} {exponent : Int}

theorem zpow_quarter_add (exponent : Int) (shift : Nat) :
    (2 : ℚ) ^ (exponent + shift - 2) = 2 ^ shift * 2 ^ (exponent - 2) := by
  rw [← zpow_natCast, ← zpow_add₀ (by norm_num)]
  congr 1
  ring

/-- A number lies around the mantissa that it is rounded to. -/
theorem IsNearestEven.surrounds (nearest : IsNearestEven mantissa (2 ^ shift) rounded)
    (full : exponent + shift ≠ -1074 → 2 ^ 52 * 2 ^ shift ≤ mantissa) :
    Surrounds rounded (exponent + shift) (size mantissa exponent) := by
  have unit : (0 : ℚ) < 2 ^ (exponent - 2) := by positivity
  have lower : (2 * (2 ^ shift * rounded) : ℚ) ≤ 2 * mantissa + 2 ^ shift := by
    exact_mod_cast nearest.lower
  have upper : (2 * mantissa : ℚ) ≤ 2 * (2 ^ shift * rounded) + 2 ^ shift := by
    exact_mod_cast nearest.upper
  have quarters : (4 * rounded - quartersBelow rounded (exponent + shift) : ℚ) * 2 ^ shift ≤
      4 * mantissa := by
    unfold quartersBelow
    split_ifs with isPower
    · have filled : (2 ^ 52 * 2 ^ shift : ℚ) ≤ mantissa := by
        exact_mod_cast full isPower.2
      rw [isPower.1]
      have positive : (0 : ℚ) < 2 ^ shift := by positivity
      push_cast
      linarith
    · push_cast
      linarith
  rw [size_eq_quarters]
  constructor
  · rw [zpow_quarter_add, ← mul_assoc]
    exact mul_le_mul_of_nonneg_right quarters unit.le
  · rw [zpow_quarter_add, ← mul_assoc]
    apply mul_le_mul_of_nonneg_right _ unit.le
    linarith
  · intro odd
    have strictLower : (2 * (2 ^ shift * rounded) : ℚ) < 2 * mantissa + 2 ^ shift := by
      exact_mod_cast (nearest.strict odd).1
    have strictUpper : (2 * mantissa : ℚ) < 2 * (2 ^ shift * rounded) + 2 ^ shift := by
      exact_mod_cast (nearest.strict odd).2
    have two : quartersBelow rounded (exponent + shift) = 2 := by
      rw [quartersBelow, if_neg]
      rintro ⟨isPower, -⟩
      rw [isPower] at odd
      exact odd (by decide)
    rw [zpow_quarter_add, ← mul_assoc, ← mul_assoc, two]
    constructor
    · apply mul_lt_mul_of_pos_right _ unit
      push_cast
      linarith
    · apply mul_lt_mul_of_pos_right _ unit
      linarith

/-- A mantissa that is rounded up to the next power of two has one place less. -/
theorem IsNearestEven.surrounds_carry (nearest : IsNearestEven mantissa (2 ^ shift) (2 ^ 53))
    (fits : mantissa < 2 ^ 53 * 2 ^ shift) (least : -1074 ≤ exponent + shift) :
    Surrounds (2 ^ 52) (exponent + shift + 1) (size mantissa exponent) := by
  have unit : (0 : ℚ) < 2 ^ (exponent - 2) := by positivity
  have lower : (2 * (2 ^ shift * 2 ^ 53) : ℚ) ≤ 2 * mantissa + 2 ^ shift := by
    exact_mod_cast nearest.lower
  have upper : (mantissa : ℚ) < 2 ^ 53 * 2 ^ shift := by
    exact_mod_cast fits
  have one : quartersBelow (2 ^ 52) (exponent + shift + 1) = 1 := by
    rw [quartersBelow, if_pos ⟨by decide, by omega⟩]
  have double : (2 : ℚ) ^ (exponent + shift + 1 - 2) = 2 * 2 ^ shift * 2 ^ (exponent - 2) := by
    rw [mul_assoc, ← zpow_quarter_add, ← zpow_one_add₀ (by norm_num)]
    congr 1
    ring
  have positive : (0 : ℚ) < 2 ^ shift := by positivity
  rw [size_eq_quarters]
  constructor
  · rw [double, ← mul_assoc, one]
    apply mul_le_mul_of_nonneg_right _ unit.le
    push_cast
    linarith
  · rw [double, ← mul_assoc]
    apply mul_le_mul_of_nonneg_right _ unit.le
    push_cast
    linarith
  · intro odd
    exact absurd rfl odd

end

/-! ## Rounding -/

/-- How many places a mantissa loses to be one of a double. -/
def lostPlaces (mantissa : Nat) (exponent : Int) : Nat :=
  (max (mantissa.log2 + 1 + exponent - 53) (-1074) - exponent).toNat

/-- A mantissa is rounded where the last place of a double is, and once more if it has got one
place too many. -/
theorem roundWithAccuracy_eq (sign : Sign) {mantissa digits rounded : Nat}
    {exponent place power : Int} (positive : 0 < rounded)
    (isDigits : (ExtendedMantissa.mk mantissa false false >>>
      lostPlaces mantissa exponent).roundedMantissa = digits)
    (isPlace : exponent + lostPlaces mantissa exponent = place)
    (isRounded : (ExtendedMantissa.mk digits false false >>>
      lostPlaces digits place).mantissa = rounded)
    (isPower : place + lostPlaces digits place = power) :
    roundWithAccuracy .binary64 sign mantissa exponent .exact =
      .finite sign rounded power positive := by
  subst isDigits isPlace isRounded isPower
  exact dif_neg (Nat.ne_of_gt positive)

theorem lostPlaces_of_lt {mantissa : Nat} {exponent : Int} (fits : mantissa < 2 ^ 53)
    (least : -1074 ≤ exponent) : lostPlaces mantissa exponent = 0 := by
  have bits : mantissa.log2 ≤ 52 := by
    rcases Nat.eq_zero_or_pos mantissa with zero | positive
    · rw [zero]
      decide
    · exact Nat.le_of_lt_succ ((Nat.log2_lt (Nat.ne_of_gt positive)).mpr fits)
  unfold lostPlaces
  omega

theorem lostPlaces_carry {exponent : Int} (least : -1074 ≤ exponent) :
    lostPlaces (2 ^ 53) exponent = 1 := by
  rw [lostPlaces, Nat.log2_two_pow]
  omega

section

variable {mantissa : Nat} {exponent : Int}

theorem lt_of_lostPlaces : mantissa < 2 ^ 53 * 2 ^ lostPlaces mantissa exponent := by
  have bits : mantissa.log2 + 1 ≤ 53 + lostPlaces mantissa exponent := by
    unfold lostPlaces
    omega
  rw [← pow_add]
  exact Nat.lt_log2_self.trans_le (Nat.pow_le_pow_right (by decide) bits)

theorem le_of_lostPlaces (positive : 0 < mantissa)
    (room : exponent ≤ max (mantissa.log2 + 1 + exponent - 53) (-1074))
    (notLeast : exponent + lostPlaces mantissa exponent ≠ -1074) :
    2 ^ 52 * 2 ^ lostPlaces mantissa exponent ≤ mantissa := by
  have bits : 52 + lostPlaces mantissa exponent = mantissa.log2 := by
    unfold lostPlaces at notLeast ⊢
    omega
  rw [← pow_add, bits]
  exact Nat.log2_self_le (Nat.ne_of_gt positive)

/-- The mantissa and the exponent of the double that a positive number rounds to. -/
structure Rounded (number : ℚ) where
  mantissa : Nat
  exponent : Int
  positive : 0 < mantissa
  canonical : IsCanonical mantissa exponent
  rounds : RoundsTo number (size mantissa exponent)

def Rounded.parts {number : ℚ} (rounded : Rounded number) (sign : Sign) : UnpackedFloat :=
  .finite sign rounded.mantissa rounded.exponent rounded.positive

/-- Rounding finds the double that a number rounds to, if the number is not too small. -/
theorem exists_roundWithAccuracy (sign : Sign)
    (room : exponent ≤ max (mantissa.log2 + 1 + exponent - 53) (-1074))
    (enough : 2 ^ lostPlaces mantissa exponent ≤ mantissa) :
    ∃ rounded : Rounded (size mantissa exponent),
      roundWithAccuracy .binary64 sign mantissa exponent .exact = rounded.parts sign ∧
        rounded.exponent ≤ exponent + lostPlaces mantissa exponent + 1 := by
  have positive : 0 < mantissa := (Nat.two_pow_pos _).trans_le enough
  have least : -1074 ≤ exponent + lostPlaces mantissa exponent := by
    unfold lostPlaces
    omega
  have nearest := isNearestEven_roundedMantissa mantissa (lostPlaces mantissa exponent)
  have full := le_of_lostPlaces positive room
  have below : mantissa < 2 ^ 53 * 2 ^ lostPlaces mantissa exponent := lt_of_lostPlaces
  generalize isDigits : (ExtendedMantissa.mk mantissa false false >>>
    lostPlaces mantissa exponent).roundedMantissa = digits at nearest
  have unitPos : 0 < 2 ^ lostPlaces mantissa exponent := Nat.two_pow_pos _
  have digitsPos : 0 < digits := nearest.le_of_le unitPos (by rwa [Nat.one_mul])
  -- Rounding up may make the mantissa one place too long, and then the place is a zero.
  rcases (nearest.le_of_lt below).lt_or_eq with fits | carry
  · have kept := lostPlaces_of_lt fits least
    have canonical : IsCanonical digits (exponent + lostPlaces mantissa exponent) := by
      refine ⟨fits, least, ?_⟩
      rcases eq_or_ne (exponent + lostPlaces mantissa exponent : Int) (-1074) with
        isLeast | notLeast
      · exact Or.inr isLeast
      · exact Or.inl (nearest.le_of_le unitPos (full notLeast))
    refine ⟨⟨digits, _, digitsPos, canonical, ?_⟩, ?_, ?_⟩
    · exact (nearest.surrounds full).roundsTo canonical digitsPos
    · apply roundWithAccuracy_eq sign digitsPos isDigits rfl
      · rw [kept]
        rfl
      · rw [kept, Nat.cast_zero, add_zero]
    · exact Int.le_add_of_nonneg_right (by decide)
  · subst carry
    have oneMore := lostPlaces_carry least
    have canonical : IsCanonical (2 ^ 52) (exponent + lostPlaces mantissa exponent + 1) :=
      ⟨by decide, by omega, Or.inl (Nat.le_refl _)⟩
    refine ⟨⟨2 ^ 52, _, Nat.two_pow_pos 52, canonical, ?_⟩, ?_, Int.le_refl _⟩
    · exact (nearest.surrounds_carry below least).roundsTo canonical (Nat.two_pow_pos 52)
    · apply roundWithAccuracy_eq sign (Nat.two_pow_pos 52) isDigits rfl
      · rw [oneMore]
        rfl
      · rw [oneMore, Nat.cast_one]

end

/-! ## Products -/

/-- A double from one on whose mantissa is filled. Its exponent is at most zero. -/
structure IsFactor (y : Float) (mantissa : Nat) (exponent : Int) : Prop where
  finite : magnitude y = .finite mantissa exponent
  unsigned : isNegative y = false
  filled : 2 ^ 52 ≤ mantissa
  atLeastOne : -52 ≤ exponent
  bounded : exponent ≤ 0

theorem exponent_le_of_size_le {mantissa : Nat} {exponent : Int} (positive : 0 < mantissa)
    (small : size mantissa exponent ≤ 1) : exponent ≤ 0 := by
  by_contra large
  have one : (1 : ℚ) ≤ mantissa := by exact_mod_cast positive
  have power : (1 : ℚ) < 2 ^ exponent := one_lt_zpow₀ (by norm_num) (by omega)
  rw [size] at small
  nlinarith

theorem size_mul_size (mantissa other : Nat) (exponent power : Int) :
    size mantissa exponent * size other power = size (mantissa * other) (exponent + power) := by
  rw [size, size, size, zpow_add₀ (by norm_num)]
  push_cast
  ring

section

variable {x y : Float} {mantissa other : Nat} {exponent power : Int}

theorem IsFactor.mantissa_pos (factor : IsFactor y other power) : 0 < other :=
  (Nat.two_pow_pos 52).trans_le factor.filled

/-- The product of two mantissas is rounded to a double. -/
theorem IsFactor.exists_rounded (factor : IsFactor y other power) (sign : Sign)
    (positive : 0 < mantissa) (canonical : IsCanonical mantissa exponent)
    (small : exponent ≤ 0) :
    ∃ rounded : Rounded (size (mantissa * other) (exponent + power)),
      roundWithAccuracy .binary64 sign (mantissa * other) (exponent + power) .exact =
          rounded.parts sign ∧
        rounded.exponent ≤ 971 := by
  have least := canonical.least
  have atLeastOne := factor.atLeastOne
  have bounded := factor.bounded
  have otherFits := (isCanonical_of_magnitude factor.finite).fits
  have filled : 2 ^ 52 ≤ mantissa * other :=
    factor.filled.trans (Nat.le_mul_of_pos_left other positive)
  have notZero : mantissa * other ≠ 0 :=
    Nat.ne_of_gt (Nat.mul_pos positive factor.mantissa_pos)
  have bits : 52 ≤ (mantissa * other).log2 := (Nat.le_log2 notZero).mpr filled
  have fewBits : (mantissa * other).log2 < 106 := by
    apply (Nat.log2_lt notZero).mpr
    have fits := Nat.mul_lt_mul'' canonical.fits otherFits
    exact fits
  have enough : 2 ^ lostPlaces (mantissa * other) (exponent + power) ≤ mantissa * other := by
    have lost : lostPlaces (mantissa * other) (exponent + power) ≤ (mantissa * other).log2 := by
      unfold lostPlaces
      omega
    exact (Nat.pow_le_pow_right (by decide) lost).trans (Nat.log2_self_le notZero)
  rcases exists_roundWithAccuracy sign (by omega) enough with ⟨rounded, isRounded, largest⟩
  refine ⟨rounded, isRounded, largest.trans ?_⟩
  unfold lostPlaces
  omega

theorem IsFactor.mul_toModel (factor : IsFactor y other power) (otherPos : 0 < other) :
    (x * y).toModel = Float.Model.pack (UnpackedFloat.mul .binary64 x.toModel.unpack
      (.finite .positive other power otherPos)) := by
  rw [← unpack_of_unsigned factor.finite otherPos factor.unsigned]
  rfl

/-- A number from zero to one times a factor is rounded to a double. -/
theorem IsFactor.exists_value?_mul (factor : IsFactor y other power) {value : ℚ}
    (valued : value? x = some value) (nonneg : 0 ≤ value) (small : value ≤ 1) :
    ∃ product, value? (x * y) = some product ∧ 0 ≤ product ∧
      RoundsTo (value * size other power) product := by
  have otherPos := factor.mantissa_pos
  have multiplied := factor.mul_toModel (x := x) otherPos
  rcases exists_finite_of_value? valued with ⟨mantissa, exponent, finite, rfl⟩
  rcases Nat.eq_zero_or_pos mantissa with rfl | positive
  · rcases exists_unpack_zero finite with ⟨sign, parts⟩
    have none : UnpackedFloat.mul .binary64 (.zero sign) (.finite .positive other power otherPos) =
        .zero (sign * .positive) := rfl
    have zero : magnitude (x * y) = .finite 0 (-1074) := by
      rw [magnitude_eq, multiplied, parts, none]
      cases sign <;> rfl
    refine ⟨0, value?_of_zero zero, le_refl 0, ?_⟩
    rw [size_zero, neg_zero, ite_self, zero_mul]
    exact roundsTo_self
  · have unsigned : isNegative x = false := by
      have sizePos : size 0 exponent < size mantissa exponent := size_lt_size_iff.mpr positive
      rw [size_zero] at sizePos
      by_contra signed
      rw [Bool.not_eq_false] at signed
      rw [if_pos signed] at nonneg
      linarith
    rw [unsigned, if_neg Bool.false_ne_true] at small ⊢
    rcases factor.exists_rounded .positive positive (isCanonical_of_magnitude finite)
      (exponent_le_of_size_le positive small) with ⟨rounded, isRounded, largest⟩
    rw [unpack_of_unsigned finite positive unsigned] at multiplied
    have packed := multiplied.trans (congrArg Float.Model.pack isRounded)
    rcases magnitude_of_pack rounded.positive rounded.canonical largest packed with
      ⟨productFinite, productUnsigned⟩
    refine ⟨size rounded.mantissa rounded.exponent, ?_, size_nonneg _ _, ?_⟩
    · rw [value?_of_finite productFinite, productUnsigned]
      rfl
    · rw [size_mul_size]
      exact rounded.rounds

/-- What is not a number stays so. -/
theorem IsFactor.magnitude_mul_of_nan (factor : IsFactor y other power)
    (nan : magnitude x = .nan) : magnitude (x * y) = .nan := by
  have otherPos := factor.mantissa_pos
  have lost : UnpackedFloat.mul .binary64 .notANumber (.finite .positive other power otherPos) =
      .notANumber := rfl
  rw [magnitude_eq, factor.mul_toModel otherPos, unpack_of_nan nan, lost]
  rfl

end

end Decimal
end Artboard
