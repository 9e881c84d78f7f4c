import Mathlib.Algebra.Order.AbsoluteValue.Basic
import Mathlib.Algebra.Order.Field.Power
import Mathlib.Algebra.Order.Field.Rat
import Mathlib.Algebra.Order.Group.Abs
import Mathlib.Data.Rat.Cast.Order
import Mathlib.Tactic.Linarith
import Mathlib.Tactic.NormNum
import Mathlib.Tactic.Positivity
import Mathlib.Tactic.Ring
import Artboard.Decimal.Shortest

/-!
# Values of doubles

A finite double is a whole number times a power of two.  Apart from zero every value is
written in one way, and the values next to it are one unit of its last place away, or half
a unit below a power of two.  So a number within half of these distances rounds to the
double, and to no other.
-/

namespace Artboard
namespace Decimal

/-- The number that a mantissa and an exponent say. -/
def size (mantissa : Nat) (exponent : Int) : ℚ :=
  mantissa * 2 ^ exponent

/-- The mantissa of a double fits into fifty-three bits and fills them, unless the exponent
is the smallest one. -/
structure IsCanonical (mantissa : Nat) (exponent : Int) : Prop where
  fits : mantissa < 2 ^ 53
  least : -1074 ≤ exponent
  fills : 2 ^ 52 ≤ mantissa ∨ exponent = -1074

theorem isCanonical_of_magnitude {x : Float} {mantissa : Nat} {exponent : Int}
    (finite : magnitude x = .finite mantissa exponent) : IsCanonical mantissa exponent := by
  unfold magnitude at finite
  dsimp only at finite
  have fraction := Nat.mod_lt x.toBits.toNat (show 0 < 1 <<< 52 by decide)
  have bound : (1 <<< 52 : Nat) = 2 ^ 52 := by decide
  split at finite
  · split at finite
    · cases finite
    · cases finite
  · split at finite
    · cases finite
      exact ⟨by omega, by omega, Or.inr rfl⟩
    · cases finite
      exact ⟨by omega, by omega, Or.inl (by omega)⟩

theorem isCanonical_zero : IsCanonical 0 (-1074) :=
  ⟨by decide, by decide, Or.inr rfl⟩

theorem size_nonneg (mantissa : Nat) (exponent : Int) : 0 ≤ size mantissa exponent := by
  unfold size
  positivity

theorem size_zero (exponent : Int) : size 0 exponent = 0 := by
  rw [size, Nat.cast_zero, zero_mul]

theorem size_lt_size_iff {mantissa other : Nat} {exponent : Int} :
    size mantissa exponent < size other exponent ↔ mantissa < other := by
  have unit : (0 : ℚ) < 2 ^ exponent := by positivity
  rw [size, size, mul_lt_mul_iff_of_pos_right unit, Nat.cast_lt]

theorem size_le_size_iff {mantissa other : Nat} {exponent : Int} :
    size mantissa exponent ≤ size other exponent ↔ mantissa ≤ other := by
  rw [← not_lt, size_lt_size_iff, Nat.not_lt]

theorem size_mono (exponent : Int) {mantissa other : Nat} (le : mantissa ≤ other) :
    size mantissa exponent ≤ size other exponent :=
  size_le_size_iff.mpr le

/-- A larger exponent can be made smaller. -/
theorem size_add_nat (mantissa : Nat) (exponent : Int) (shift : Nat) :
    size mantissa (exponent + shift) = size (mantissa * 2 ^ shift) exponent := by
  rw [size, size, zpow_add₀ (by norm_num), zpow_natCast, Nat.cast_mul, Nat.cast_pow]
  push_cast
  ring

/-! ## Neighbours -/

section

variable {mantissa other : Nat} {exponent otherExponent : Int}

/-- A value with a smaller exponent is below one that fills its mantissa. -/
theorem size_lt_of_exponent_lt (canonical : IsCanonical mantissa exponent)
    (otherCanonical : IsCanonical other otherExponent) (smaller : otherExponent < exponent) :
    size other otherExponent + 2 ^ (exponent - 1) ≤ size (2 ^ 52) exponent ∧
      2 ^ 52 ≤ mantissa := by
  have fills : 2 ^ 52 ≤ mantissa := by
    rcases canonical.fills with fills | least
    · exact fills
    · have floor := otherCanonical.least
      omega
  refine ⟨?_, fills⟩
  have fits : other + 1 ≤ 2 ^ 53 := otherCanonical.fits
  obtain ⟨shift, distance⟩ : ∃ shift : Nat, exponent - 1 = otherExponent + shift :=
    ⟨(exponent - 1 - otherExponent).toNat, by omega⟩
  have raised : size other otherExponent ≤ size other (exponent - 1) := by
    rw [distance, size_add_nat, size_le_size_iff]
    exact Nat.le_mul_of_pos_right other (by positivity)
  have whole : size (2 ^ 52) exponent = size (2 ^ 53) (exponent - 1) := by
    have moved := size_add_nat (2 ^ 52) (exponent - 1) 1
    rw [Nat.cast_one, sub_add_cancel] at moved
    exact moved
  have next : size other (exponent - 1) + 2 ^ (exponent - 1) = size (other + 1) (exponent - 1) := by
    rw [size, size, Nat.cast_add, Nat.cast_one]
    ring
  rw [whole]
  have fitted := size_mono (exponent - 1) fits
  linarith

/-- The next value above is a unit of the last place away. -/
theorem size_succ_le_of_lt (canonical : IsCanonical mantissa exponent)
    (otherCanonical : IsCanonical other otherExponent)
    (larger : size mantissa exponent < size other otherExponent) :
    size (mantissa + 1) exponent ≤ size other otherExponent := by
  by_cases smaller : otherExponent < exponent
  · rcases size_lt_of_exponent_lt canonical otherCanonical smaller with ⟨below, fills⟩
    have unit : (0 : ℚ) < 2 ^ (exponent - 1) := by positivity
    have filled := size_mono exponent fills
    linarith
  · obtain ⟨shift, distance⟩ : ∃ shift : Nat, otherExponent = exponent + shift :=
      ⟨(otherExponent - exponent).toNat, by omega⟩
    rw [distance, size_add_nat] at larger ⊢
    exact size_le_size_iff.mpr (size_lt_size_iff.mp larger)

/-- The next value below is a unit of the last place away, or half a unit for a power of
two. -/
theorem size_le_sub_of_lt (canonical : IsCanonical mantissa exponent)
    (otherCanonical : IsCanonical other otherExponent)
    (smallerSize : size other otherExponent < size mantissa exponent) :
    size other otherExponent ≤
      size mantissa exponent - quartersBelow mantissa exponent * 2 ^ (exponent - 1) := by
  have half : (2 : ℚ) ^ exponent = 2 * 2 ^ (exponent - 1) := by
    rw [← zpow_one_add₀ (by norm_num : (2 : ℚ) ≠ 0)]
    congr 1
    ring
  have unit : (0 : ℚ) < 2 ^ (exponent - 1) := by positivity
  have quarters : (quartersBelow mantissa exponent : ℚ) ≤ 2 := by
    unfold quartersBelow
    split <;> norm_num
  have previous : ∀ whole : Nat, whole < mantissa →
      size whole exponent ≤ size mantissa exponent - 2 * 2 ^ (exponent - 1) := by
    intro whole less
    have next := size_mono exponent (Nat.succ_le_of_lt less)
    have apart : size (whole + 1) exponent = size whole exponent + 2 ^ exponent := by
      rw [size, size, Nat.cast_add, Nat.cast_one]
      ring
    rw [Nat.succ_eq_add_one, apart] at next
    linarith
  by_cases smaller : otherExponent < exponent
  · rcases size_lt_of_exponent_lt canonical otherCanonical smaller with ⟨below, fills⟩
    rcases Nat.lt_or_eq_of_le fills with above | isPower
    · have one := previous (2 ^ 52) above
      nlinarith
    · have notLeast : exponent ≠ -1074 := by
        have floor := otherCanonical.least
        omega
      have isOne : quartersBelow mantissa exponent = 1 := by
        rw [quartersBelow, if_pos ⟨isPower.symm, notLeast⟩]
      rw [isOne, ← isPower, Nat.cast_one]
      linarith
  · obtain ⟨shift, distance⟩ : ∃ shift : Nat, otherExponent = exponent + shift :=
      ⟨(otherExponent - exponent).toNat, by omega⟩
    rw [distance, size_add_nat] at smallerSize ⊢
    have one := previous _ (size_lt_size_iff.mp smallerSize)
    nlinarith

/-- A value is written in one way. -/
theorem eq_of_size_eq (canonical : IsCanonical mantissa exponent)
    (otherCanonical : IsCanonical other otherExponent)
    (same : size mantissa exponent = size other otherExponent) :
    mantissa = other ∧ exponent = otherExponent := by
  have unit : ∀ power : Int, (0 : ℚ) < 2 ^ (power - 1) := fun power => by positivity
  rcases lt_trichotomy exponent otherExponent with less | equal | more
  · rcases size_lt_of_exponent_lt otherCanonical canonical less with ⟨below, fills⟩
    have filled := size_mono otherExponent fills
    linarith [unit otherExponent]
  · subst equal
    refine ⟨?_, rfl⟩
    apply Nat.le_antisymm
    · exact size_le_size_iff.mp same.le
    · exact size_le_size_iff.mp same.ge
  · rcases size_lt_of_exponent_lt canonical otherCanonical more with ⟨below, fills⟩
    have filled := size_mono exponent fills
    linarith [unit exponent]

end

/-! ## Rounding to a double -/

/-- The values of doubles, if there were no largest one. -/
def IsValue (value : ℚ) : Prop :=
  ∃ mantissa exponent, IsCanonical mantissa exponent ∧ |value| = size mantissa exponent

/-- The last bit of the mantissa is zero. -/
def IsEven (value : ℚ) : Prop :=
  ∃ mantissa exponent, IsCanonical mantissa exponent ∧ |value| = size mantissa exponent ∧
    mantissa % 2 = 0

/-- A number rounds to a value: no other one is nearer, and where another one is as near,
the last bit decides. -/
structure RoundsTo (number value : ℚ) : Prop where
  nearest : ∀ other, IsValue other → |number - value| ≤ |number - other|
  tie : ∀ other, IsValue other → |number - value| = |number - other| →
    value = other ∨ IsEven value

/-- The numbers that round to a positive double, by its mantissa and exponent. The ends
belong to them when the mantissa is even. -/
structure Surrounds (mantissa : Nat) (exponent : Int) (number : ℚ) : Prop where
  lower : (4 * mantissa - quartersBelow mantissa exponent) * 2 ^ (exponent - 2) ≤ number
  upper : number ≤ (4 * mantissa + 2) * 2 ^ (exponent - 2)
  strict : mantissa % 2 ≠ 0 →
    (4 * mantissa - quartersBelow mantissa exponent) * 2 ^ (exponent - 2) < number ∧
      number < (4 * mantissa + 2) * 2 ^ (exponent - 2)

theorem isValue_size {mantissa : Nat} {exponent : Int} (canonical : IsCanonical mantissa exponent) :
    IsValue (size mantissa exponent) :=
  ⟨mantissa, exponent, canonical, abs_of_nonneg (size_nonneg mantissa exponent)⟩

theorem IsValue.neg {value : ℚ} (isValue : IsValue value) : IsValue (-value) := by
  rcases isValue with ⟨mantissa, exponent, canonical, same⟩
  exact ⟨mantissa, exponent, canonical, (abs_neg value).trans same⟩

theorem isValue_zero : IsValue 0 :=
  ⟨0, -1074, isCanonical_zero, by rw [size_zero, abs_zero]⟩

theorem RoundsTo.neg {number value : ℚ} (rounds : RoundsTo number value) :
    RoundsTo (-number) (-value) := by
  have mirrored : ∀ other, |-number - other| = |number - -other| := by
    intro other
    rw [← abs_neg]
    congr 1
    ring
  constructor
  · intro other isValue
    rw [mirrored, mirrored, neg_neg]
    exact rounds.nearest (-other) isValue.neg
  · intro other isValue equal
    rw [mirrored, mirrored, neg_neg] at equal
    rcases rounds.tie (-other) isValue.neg equal with same | ⟨mantissa, exponent, even⟩
    · exact Or.inl (by rw [same, neg_neg])
    · exact Or.inr ⟨mantissa, exponent, by rwa [abs_neg]⟩

/-- A value rounds to itself. -/
theorem roundsTo_self {value : ℚ} : RoundsTo value value := by
  constructor
  · intro other _
    rw [sub_self, abs_zero]
    exact abs_nonneg _
  · intro other _ equal
    rw [sub_self, abs_zero] at equal
    exact Or.inl (sub_eq_zero.mp (abs_eq_zero.mp equal.symm))

section

variable {mantissa other : Nat} {exponent otherExponent : Int} {number : ℚ}

theorem size_eq_quarters : size mantissa exponent = 4 * mantissa * 2 ^ (exponent - 2) := by
  have quarter : (2 : ℚ) ^ exponent = 4 * 2 ^ (exponent - 2) := by
    rw [zpow_sub₀ (by norm_num)]
    norm_num
    ring
  rw [size, quarter]
  ring

theorem abs_sub_lt_abs_sub_iff_middle {value other : ℚ} :
    |number - value| < |number - other| ↔ (other - value) * (2 * number - value - other) < 0 := by
  rw [← sq_lt_sq, ← sub_neg]
  ring_nf

theorem abs_sub_eq_abs_sub_iff_middle {value other : ℚ} :
    |number - value| = |number - other| ↔ (other - value) * (2 * number - value - other) = 0 := by
  rw [← sq_eq_sq_iff_abs_eq_abs, ← sub_eq_zero]
  ring_nf

/-- A number inside the interval of a double is nearer to it than to any other value of the
same sign, or as near at an end of the interval. -/
theorem Surrounds.lt_or_even (surrounds : Surrounds mantissa exponent number)
    (canonical : IsCanonical mantissa exponent) (otherCanonical : IsCanonical other otherExponent)
    (different : size mantissa exponent ≠ size other otherExponent) :
    |number - size mantissa exponent| < |number - size other otherExponent| ∨
      (|number - size mantissa exponent| = |number - size other otherExponent| ∧
        mantissa % 2 = 0) := by
  have value : size mantissa exponent = 4 * mantissa * 2 ^ (exponent - 2) := size_eq_quarters
  have half : (2 : ℚ) ^ (exponent - 1) = 2 * 2 ^ (exponent - 2) := by
    rw [← zpow_one_add₀ (by norm_num : (2 : ℚ) ≠ 0)]
    congr 1
    ring
  have lower := surrounds.lower
  have upper := surrounds.upper
  rw [abs_sub_lt_abs_sub_iff_middle, abs_sub_eq_abs_sub_iff_middle]
  rcases lt_or_gt_of_ne different with larger | smaller
  · have next := size_succ_le_of_lt canonical otherCanonical larger
    rw [size_eq_quarters, Nat.cast_add, Nat.cast_one] at next
    have apart : 0 < size other otherExponent - size mantissa exponent := sub_pos.mpr larger
    have middle : 2 * number - size mantissa exponent - size other otherExponent ≤ 0 := by
      linarith
    rcases middle.lt_or_eq with inside | atEnd
    · exact Or.inl (mul_neg_of_pos_of_neg apart inside)
    · refine Or.inr ⟨mul_eq_zero.mpr (Or.inr atEnd), ?_⟩
      by_contra odd
      have strict := (surrounds.strict odd).2
      linarith
  · have previous := size_le_sub_of_lt canonical otherCanonical smaller
    rw [half] at previous
    have apart : size other otherExponent - size mantissa exponent < 0 := sub_neg.mpr smaller
    have middle : 0 ≤ 2 * number - size mantissa exponent - size other otherExponent := by
      linarith
    rcases middle.lt_or_eq with inside | atEnd
    · exact Or.inl (mul_neg_of_neg_of_pos apart inside)
    · refine Or.inr ⟨mul_eq_zero.mpr (Or.inr atEnd.symm), ?_⟩
      by_contra odd
      have strict := (surrounds.strict odd).1
      linarith

theorem Surrounds.pos (surrounds : Surrounds mantissa exponent number) (positive : 0 < mantissa) :
    0 < number := by
  have unit : (0 : ℚ) < 2 ^ (exponent - 2) := by positivity
  have quarters : (quartersBelow mantissa exponent : ℚ) ≤ 2 := by
    unfold quartersBelow
    split <;> norm_num
  have one : (1 : ℚ) ≤ mantissa := by exact_mod_cast positive
  have lower := surrounds.lower
  nlinarith

/-- A number inside the interval of a double rounds to it. -/
theorem Surrounds.roundsTo (surrounds : Surrounds mantissa exponent number)
    (canonical : IsCanonical mantissa exponent) (positive : 0 < mantissa) :
    RoundsTo number (size mantissa exponent) := by
  have numberPositive := surrounds.pos positive
  have valuePositive : 0 < size mantissa exponent := by
    rw [← size_zero exponent]
    exact size_lt_size_iff.mpr positive
  have decided : ∀ other, IsValue other →
      |number - size mantissa exponent| < |number - other| ∨
        (|number - size mantissa exponent| = |number - other| ∧
          (size mantissa exponent = other ∨ IsEven (size mantissa exponent))) := by
    rintro other ⟨digits, power, otherCanonical, same⟩
    -- The value with the other sign is further away than the one with the same sign.
    have mirrored : |number - (|other|)| ≤ |number - other| := by
      rcases abs_cases other with ⟨isSelf, -⟩ | ⟨isNeg, negative⟩
      · rw [isSelf]
      · rw [isNeg, abs_of_pos (by linarith : 0 < number - other), abs_le]
        constructor <;> linarith
    rcases eq_or_ne (size mantissa exponent) |other| with equal | different
    · rcases abs_choice other with isSelf | isNeg
      · rw [isSelf] at equal
        rw [equal]
        exact Or.inr ⟨rfl, Or.inl rfl⟩
      · left
        rw [abs_sub_lt_abs_sub_iff_middle]
        have opposite : other = -size mantissa exponent := by rw [equal, isNeg, neg_neg]
        rw [opposite]
        nlinarith
    · rw [same] at different mirrored
      rcases surrounds.lt_or_even canonical otherCanonical different with nearer | ⟨equal, even⟩
      · exact Or.inl (nearer.trans_le mirrored)
      · rcases mirrored.lt_or_eq with further | atEnd
        · exact Or.inl (equal.trans_lt further)
        · refine Or.inr ⟨equal.trans atEnd, Or.inr ⟨mantissa, exponent, canonical, ?_, even⟩⟩
          exact abs_of_pos valuePositive
  constructor
  · intro other isValue
    rcases decided other isValue with nearer | ⟨equal, -⟩
    · exact nearer.le
    · exact equal.le
  · intro other isValue equal
    rcases decided other isValue with nearer | ⟨-, even⟩
    · exact absurd equal nearer.ne
    · exact even

end

/-! ## No number rounds to two values -/

theorem IsEven.neg {value : ℚ} (even : IsEven value) : IsEven (-value) := by
  rcases even with ⟨mantissa, exponent, canonical, same, isEven⟩
  exact ⟨mantissa, exponent, canonical, (abs_neg value).trans same, isEven⟩

/-- Between two values with an even last bit is one with an odd one. -/
theorem exists_value_between_nonneg {value other : ℚ} (nonneg : 0 ≤ value) (less : value < other)
    (even : IsEven value) (otherEven : IsEven other) :
    ∃ between, IsValue between ∧ value < between ∧ between < other := by
  rcases even with ⟨mantissa, exponent, canonical, same, isEven⟩
  rcases otherEven with ⟨digits, power, otherCanonical, otherSame, otherIsEven⟩
  rw [abs_of_nonneg nonneg] at same
  rw [abs_of_nonneg (nonneg.trans less.le)] at otherSame
  have fits := canonical.fits
  have nextCanonical : IsCanonical (mantissa + 1) exponent :=
    ⟨by omega, canonical.least, canonical.fills.imp_left Nat.le_succ_of_le⟩
  refine ⟨size (mantissa + 1) exponent, isValue_size nextCanonical, ?_, ?_⟩
  · rw [same]
    exact size_lt_size_iff.mpr (Nat.lt_succ_self mantissa)
  · rw [same, otherSame] at less
    rw [otherSame]
    refine lt_of_le_of_ne (size_succ_le_of_lt canonical otherCanonical less) ?_
    intro equal
    have written := (eq_of_size_eq nextCanonical otherCanonical equal).1
    omega

theorem exists_value_between {value other : ℚ} (less : value < other) (even : IsEven value)
    (otherEven : IsEven other) : ∃ between, IsValue between ∧ value < between ∧ between < other := by
  rcases le_or_gt 0 value with nonneg | negative
  · exact exists_value_between_nonneg nonneg less even otherEven
  · rcases le_or_gt other 0 with nonpos | positive
    · rcases exists_value_between_nonneg (neg_nonneg.mpr nonpos) (neg_lt_neg less) otherEven.neg
        even.neg with ⟨between, isValue, above, below⟩
      exact ⟨-between, isValue.neg, by linarith, by linarith⟩
    · exact ⟨0, isValue_zero, negative, positive⟩

/-- A number rounds to one value only. -/
theorem RoundsTo.unique {number value other : ℚ} (rounds : RoundsTo number value)
    (otherRounds : RoundsTo number other) (isValue : IsValue value) (otherIsValue : IsValue other) :
    value = other := by
  have equal : |number - value| = |number - other| :=
    le_antisymm (rounds.nearest other otherIsValue) (otherRounds.nearest value isValue)
  by_contra different
  have even := (rounds.tie other otherIsValue equal).resolve_left different
  have otherEven := (otherRounds.tie value isValue equal.symm).resolve_left (Ne.symm different)
  -- The number is in the middle, and whatever lies between the two values is nearer.
  have middle := abs_sub_eq_abs_sub_iff_middle.mp equal
  have isMiddle := (mul_eq_zero.mp middle).resolve_left (sub_ne_zero.mpr (Ne.symm different))
  have nearer : ∀ between, value < between ∧ between < other ∨ other < between ∧ between < value →
      |number - between| < |number - value| := by
    intro between inside
    rw [abs_sub_lt_abs_sub_iff_middle]
    rcases inside with ⟨above, below⟩ | ⟨above, below⟩
    · exact mul_neg_of_neg_of_pos (by linarith) (by linarith)
    · exact mul_neg_of_pos_of_neg (by linarith) (by linarith)
  rcases lt_or_gt_of_ne different with less | greater
  · rcases exists_value_between less even otherEven with ⟨between, betweenIsValue, above, below⟩
    exact absurd (rounds.nearest between betweenIsValue)
      (not_le.mpr (nearer between (Or.inl ⟨above, below⟩)))
  · rcases exists_value_between greater otherEven even with ⟨between, betweenIsValue, above, below⟩
    exact absurd (rounds.nearest between betweenIsValue)
      (not_le.mpr (nearer between (Or.inr ⟨above, below⟩)))

/-! ## Bounds -/

section

variable {number value bound : ℚ}

theorem RoundsTo.le_of_lt (rounds : RoundsTo number value) (isValue : IsValue bound)
    (less : bound < value) : bound ≤ number := by
  by_contra below
  rw [not_le] at below
  have nearest := rounds.nearest bound isValue
  rw [abs_of_neg (by linarith), abs_of_neg (by linarith)] at nearest
  linarith

theorem RoundsTo.le_of_gt (rounds : RoundsTo number value) (isValue : IsValue bound)
    (greater : value < bound) : number ≤ bound :=
  neg_le_neg_iff.mp (rounds.neg.le_of_lt isValue.neg (neg_lt_neg greater))

theorem RoundsTo.le_of_le (rounds : RoundsTo number value) (isValue : IsValue bound)
    (below : number ≤ bound) : value ≤ bound := by
  by_contra above
  rw [not_le] at above
  have nearest := rounds.nearest bound isValue
  rw [abs_of_nonpos (by linarith), abs_of_nonpos (by linarith)] at nearest
  linarith

/-- A number and the value that it rounds to are on the same side of a value, if the value
itself is rounded from no number but itself. -/
theorem RoundsTo.bound_le_iff (rounds : RoundsTo number value) (isValue : IsValue value)
    (boundIsValue : IsValue bound) (exact : value = bound → number = bound) :
    bound ≤ number ↔ bound ≤ value := by
  constructor
  · intro above
    by_contra below
    rw [not_le] at below
    have same := le_antisymm (rounds.le_of_gt boundIsValue below) above
    rw [same] at rounds
    exact below.ne (rounds.unique roundsTo_self isValue boundIsValue)
  · intro above
    rcases above.eq_or_lt with same | less
    · exact (exact same.symm).ge
    · exact rounds.le_of_lt boundIsValue less

theorem RoundsTo.le_bound_iff (rounds : RoundsTo number value) (isValue : IsValue value)
    (boundIsValue : IsValue bound) (exact : value = bound → number = bound) :
    number ≤ bound ↔ value ≤ bound := by
  have mirrored : -value = -bound → -number = -bound := by
    intro same
    rw [exact (neg_injective same)]
  have negated := rounds.neg.bound_le_iff isValue.neg boundIsValue.neg mirrored
  rw [neg_le_neg_iff, neg_le_neg_iff] at negated
  exact negated

end

/-! ## Values of doubles -/

/-- The value of a double, if it is finite. -/
def value? (x : Float) : Option ℚ :=
  match magnitude x with
  | .finite mantissa exponent =>
    some (if isNegative x then -size mantissa exponent else size mantissa exponent)
  | _ => none

theorem value?_of_finite {x : Float} {mantissa : Nat} {exponent : Int}
    (finite : magnitude x = .finite mantissa exponent) :
    value? x =
      some (if isNegative x then -size mantissa exponent else size mantissa exponent) := by
  rw [value?, finite]

theorem exists_finite_of_value? {x : Float} {value : ℚ} (valued : value? x = some value) :
    ∃ mantissa exponent, magnitude x = .finite mantissa exponent ∧
      value = if isNegative x then -size mantissa exponent else size mantissa exponent := by
  unfold value? at valued
  split at valued
  · next mantissa exponent finite => exact ⟨mantissa, exponent, finite, (Option.some.inj valued).symm⟩
  · cases valued

theorem isValue_of_value? {x : Float} {value : ℚ} (valued : value? x = some value) :
    IsValue value := by
  rcases exists_finite_of_value? valued with ⟨mantissa, exponent, finite, rfl⟩
  have isSize := isValue_size (isCanonical_of_magnitude finite)
  split
  · exact isSize.neg
  · exact isSize

end Decimal
end Artboard
