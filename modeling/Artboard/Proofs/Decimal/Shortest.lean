import Artboard.Proofs.Decimal.Value

/-!
# Shortest decimals round to their doubles

The search for the shortest decimal of a double takes only grid points that lie in the
interval of the double, so what it finds rounds to the double.  It finds one: seventeen
digits make the grid finer than the interval is wide.
-/

namespace Artboard
namespace Decimal

/-- The number that a decimal says. -/
def Scaled.value (decimal : Scaled) : ℚ :=
  decimal.digits * 10 ^ decimal.exponent

/-! ## The leading digit -/

theorem digitCount_of_pos {n : Nat} (positive : 0 < n) :
    ∃ before, digitCount n = before + 1 ∧ 10 ^ before ≤ n ∧ n < 10 ^ (before + 1) := by
  have counted : digitCount n = (Nat.toDigits 10 n).length := by
    rw [digitCount, if_neg (Nat.ne_of_gt positive)]
  obtain ⟨before, length⟩ : ∃ before, (Nat.toDigits 10 n).length = before + 1 :=
    Nat.exists_eq_succ_of_ne_zero (Nat.ne_of_gt Nat.length_toDigits_pos)
  refine ⟨before, counted.trans length, ?_, ?_⟩
  · rcases Nat.eq_zero_or_pos before with isZero | more
    · rw [isZero]
      exact positive
    · by_contra less
      have shorter := (Nat.length_toDigits_le_iff (by decide) more).mpr (Nat.lt_of_not_le less)
      omega
  · exact (Nat.length_toDigits_le_iff (by decide) (Nat.succ_pos before)).mp length.le

theorem zpow_toNat_eq (base : ℚ) (positive : base ≠ 0) (power : Int) :
    base ^ power.toNat = base ^ power * base ^ (-power).toNat := by
  rw [← zpow_natCast, ← zpow_natCast, ← zpow_add₀ positive]
  congr 1
  omega

theorem size_eq_div (mantissa : Nat) (exponent : Int) :
    size mantissa exponent =
      (mantissa <<< exponent.toNat : Nat) / (1 <<< (-exponent).toNat : Nat) := by
  have powers := zpow_toNat_eq 2 (by norm_num) exponent
  rw [Nat.shiftLeft_eq, Nat.shiftLeft_eq, one_mul, size]
  push_cast
  rw [powers, ← mul_assoc, mul_div_cancel_right₀ _ (by positivity)]

/-- The digits in front of the point say between which powers of ten a quotient lies. -/
theorem digitCount_quotient {num den : Nat} (denPos : 0 < den) (large : den ≤ num) :
    (10 : ℚ) ^ ((digitCount (num / den) : Int) - 1) ≤ num / den ∧
      (num / den : ℚ) < 10 ^ ((digitCount (num / den) : Int) - 1 + 1) := by
  have denPosRat : (0 : ℚ) < den := by exact_mod_cast denPos
  rcases digitCount_of_pos (Nat.div_pos large denPos) with ⟨before, counted, lower, upper⟩
  rw [counted, Nat.cast_add, Nat.cast_one, add_sub_cancel_right, zpow_natCast]
  have whole := (Nat.le_div_iff_mul_le denPos).mp lower
  have next := (Nat.div_lt_iff_lt_mul denPos).mp upper
  constructor
  · rw [le_div_iff₀ denPosRat]
    exact_mod_cast whole
  · rw [div_lt_iff₀ denPosRat, ← Nat.cast_one, ← Nat.cast_add, zpow_natCast]
    exact_mod_cast next

/-- The least multiple that reaches a bound. -/
theorem ceiling_spec {num : Nat} (den : Nat) (numPos : 0 < num) :
    den ≤ (den + num - 1) / num * num ∧ (den + num - 1) / num * num ≤ den + num - 1 := by
  refine ⟨?_, Nat.div_mul_le_self _ _⟩
  have rest := Nat.lt_div_mul_add numPos (a := den + num - 1)
  omega

/-- Below one, the digits of how often a number goes into the denominator say between which
powers of ten the fraction lies. -/
theorem digitCount_fraction {num den : Nat} (numPos : 0 < num) (small : num < den) :
    (10 : ℚ) ^ (-(digitCount ((den + num - 1) / num - 1) : Int)) ≤ num / den ∧
      (num / den : ℚ) < 10 ^ (-(digitCount ((den + num - 1) / num - 1) : Int) + 1) := by
  have denPosRat : (0 : ℚ) < den := by exact_mod_cast numPos.trans small
  rcases ceiling_spec den numPos with ⟨above, below⟩
  generalize (den + num - 1) / num = ceil at above below ⊢
  have two : 2 ≤ ceil := by
    by_contra less
    have one : ceil ≤ 1 := by omega
    have bound := Nat.mul_le_mul_right num one
    omega
  rcases digitCount_of_pos (show 0 < ceil - 1 by omega) with ⟨before, counted, lower, upper⟩
  have tens : ∀ count : Nat, (10 : ℚ) ^ (-(count : Int)) = 1 / 10 ^ count := by
    intro count
    rw [zpow_neg, zpow_natCast, one_div]
  have next : (10 : ℚ) ^ (-((before + 1 : Nat) : Int) + 1) = 1 / 10 ^ before := by
    rw [← tens]
    congr 1
    omega
  rw [counted, tens, next]
  constructor
  · rw [div_le_div_iff₀ (by positivity) denPosRat, one_mul]
    have many : den ≤ num * 10 ^ (before + 1) := by
      have enough : ceil ≤ 10 ^ (before + 1) := by omega
      have bound := Nat.mul_le_mul_right num enough
      rw [Nat.mul_comm num]
      omega
    exact_mod_cast many
  · rw [div_lt_div_iff₀ denPosRat (by positivity), one_mul]
    have few : num * 10 ^ before < den := by
      have bound := Nat.mul_le_mul_right num lower
      rw [Nat.sub_mul, one_mul] at bound
      rw [Nat.mul_comm num]
      have room := Nat.mul_le_mul_right num two
      omega
    exact_mod_cast few

/-- The value lies between two powers of ten. -/
theorem leadingExponent_spec {mantissa : Nat} (exponent : Int) (positive : 0 < mantissa) :
    10 ^ leadingExponent mantissa exponent ≤ size mantissa exponent ∧
      size mantissa exponent < 10 ^ (leadingExponent mantissa exponent + 1) := by
  have numPos : 0 < mantissa <<< exponent.toNat := by
    rw [Nat.shiftLeft_eq]
    positivity
  have denPos : 0 < 1 <<< (-exponent).toNat := by
    rw [Nat.shiftLeft_eq]
    positivity
  rw [size_eq_div, leadingExponent]
  split
  · next large => exact digitCount_quotient denPos large
  · next small => exact digitCount_fraction numPos (Nat.lt_of_not_le small)

/-! ## Points of a grid -/

section

variable {mantissa : Nat} {exponent place : Int}

theorem Grid.unit_pos (exponent place : Int) : 0 < (Grid.at exponent place).unit := by
  rw [Grid.at]
  simp only [Nat.pow_eq, Nat.shiftLeft_eq]
  positivity

theorem Grid.step_pos (exponent place : Int) : 0 < (Grid.at exponent place).step := by
  rw [Grid.at]
  simp only [Nat.pow_eq, Nat.shiftLeft_eq]
  positivity

/-- A step of the grid is to its unit as the power of ten to a quarter of the last place. -/
theorem Grid.step_mul (exponent place : Int) :
    ((Grid.at exponent place).step : ℚ) * 2 ^ (exponent - 2) =
      (Grid.at exponent place).unit * 10 ^ place := by
  have tens := zpow_toNat_eq 10 (by norm_num) place
  have twos := zpow_toNat_eq 2 (by norm_num) (exponent - 2)
  rw [neg_sub] at twos
  rw [Grid.at]
  dsimp only [Nat.pow_eq]
  rw [Nat.shiftLeft_eq, Nat.shiftLeft_eq]
  push_cast
  rw [tens, twos]
  ring

/-- A point of the grid and a number of quarter units over one denominator. -/
theorem Grid.over_unit (exponent place : Int) (quarters d : Nat) :
    (quarters * (Grid.at exponent place).unit : ℚ) * 2 ^ (exponent - 2) =
        (Grid.at exponent place).unit * (quarters * 2 ^ (exponent - 2)) ∧
      (d * (Grid.at exponent place).step : ℚ) * 2 ^ (exponent - 2) =
        (Grid.at exponent place).unit * (d * 10 ^ place) := by
  constructor
  · ring
  · rw [mul_assoc, Grid.step_mul]
    ring

theorem Grid.le_iff {quarters d : Nat} :
    quarters * (Grid.at exponent place).unit ≤ d * (Grid.at exponent place).step ↔
      (quarters : ℚ) * 2 ^ (exponent - 2) ≤ d * 10 ^ place := by
  have unit : (0 : ℚ) < (Grid.at exponent place).unit := by exact_mod_cast Grid.unit_pos _ _
  have quarter : (0 : ℚ) < 2 ^ (exponent - 2) := by positivity
  rcases Grid.over_unit exponent place quarters d with ⟨left, right⟩
  rw [← Nat.cast_le (α := ℚ), ← mul_le_mul_iff_of_pos_right quarter, Nat.cast_mul, Nat.cast_mul,
    left, right, mul_le_mul_iff_of_pos_left unit]

theorem Grid.ge_iff {quarters d : Nat} :
    d * (Grid.at exponent place).step ≤ quarters * (Grid.at exponent place).unit ↔
      (d : ℚ) * 10 ^ place ≤ quarters * 2 ^ (exponent - 2) := by
  have unit : (0 : ℚ) < (Grid.at exponent place).unit := by exact_mod_cast Grid.unit_pos _ _
  have quarter : (0 : ℚ) < 2 ^ (exponent - 2) := by positivity
  rcases Grid.over_unit exponent place quarters d with ⟨left, right⟩
  rw [← Nat.cast_le (α := ℚ), ← mul_le_mul_iff_of_pos_right quarter, Nat.cast_mul, Nat.cast_mul,
    left, right, mul_le_mul_iff_of_pos_left unit]

theorem cast_lower (positive : 0 < mantissa) :
    ((4 * mantissa - quartersBelow mantissa exponent : Nat) : ℚ) =
      4 * mantissa - quartersBelow mantissa exponent := by
  have few : quartersBelow mantissa exponent ≤ 4 * mantissa := by
    unfold quartersBelow
    split <;> omega
  rw [Nat.cast_sub few]
  push_cast
  rfl

theorem cast_upper : ((4 * mantissa + 2 : Nat) : ℚ) = 4 * mantissa + 2 := by
  push_cast
  rfl

/-- A grid point is taken when it lies in the interval of the double. -/
theorem roundsTo_iff (positive : 0 < mantissa) {d : Nat} :
    roundsTo mantissa exponent (Grid.at exponent place) d = true ↔
      Surrounds mantissa exponent (d * 10 ^ place) := by
  rw [roundsTo]
  split
  · next even =>
      rw [Bool.and_eq_true, decide_eq_true_iff, decide_eq_true_iff, Grid.le_iff, Grid.ge_iff,
        cast_lower positive, cast_upper]
      constructor
      · rintro ⟨lower, upper⟩
        exact ⟨lower, upper, fun odd => absurd even odd⟩
      · rintro ⟨lower, upper, -⟩
        exact ⟨lower, upper⟩
  · next odd =>
      rw [Bool.and_eq_true, decide_eq_true_iff, decide_eq_true_iff, ← not_le, ← not_le, Grid.le_iff,
        Grid.ge_iff, cast_lower positive, cast_upper, not_le, not_le]
      constructor
      · rintro ⟨lower, upper⟩
        exact ⟨lower.le, upper.le, fun _ => ⟨lower, upper⟩⟩
      · rintro ⟨-, -, strict⟩
        exact strict odd

/-- What is found on a grid lies in the interval. -/
theorem surrounds_of_nearestOn {tie : Tie} (positive : 0 < mantissa) {d : Nat}
    (found : nearestOn tie mantissa exponent place = some d) :
    Surrounds mantissa exponent (d * 10 ^ place) := by
  apply (roundsTo_iff positive).mp
  unfold nearestOn at found
  dsimp only at found
  split at found
  · next low high =>
      split at found
      · cases found
        exact low
      · split at found
        · cases found
          exact high
        · cases tie with
          | up =>
              cases found
              exact high
          | even =>
              dsimp only at found
              split at found
              · cases found
                exact low
              · cases found
                exact high
  · next low _ =>
      cases found
      exact low
  · next high =>
      cases found
      exact high
  · cases found

/-- The grid point in front of a double and the one behind it. -/
theorem Grid.around {low : Nat}
    (isLow : 4 * mantissa * (Grid.at exponent place).unit / (Grid.at exponent place).step = low) :
    (low : ℚ) * 10 ^ place ≤ 4 * mantissa * 2 ^ (exponent - 2) ∧
      4 * mantissa * 2 ^ (exponent - 2) < ((low : ℚ) + 1) * 10 ^ place := by
  constructor
  · have whole := Nat.div_mul_le_self (4 * mantissa * (Grid.at exponent place).unit)
      (Grid.at exponent place).step
    rw [isLow] at whole
    have divided := Grid.ge_iff.mp whole
    push_cast at divided
    exact divided
  · have next := Nat.lt_mul_of_div_lt (Nat.lt_succ_of_le isLow.le) (Grid.step_pos exponent place)
    rw [← not_le, Grid.ge_iff, not_le] at next
    push_cast at next
    exact next

/-- On a grid that is finer than the interval is wide, one of the neighbours of the double
lies in the interval. -/
theorem roundsTo_neighbour (positive : 0 < mantissa) {low : Nat}
    (isLow : 4 * mantissa * (Grid.at exponent place).unit / (Grid.at exponent place).step = low)
    (fine : (10 : ℚ) ^ place < (quartersBelow mantissa exponent + 2) * 2 ^ (exponent - 2)) :
    roundsTo mantissa exponent (Grid.at exponent place) low = true ∨
      roundsTo mantissa exponent (Grid.at exponent place) (low + 1) = true := by
  rcases Grid.around isLow with ⟨below, above⟩
  have unit : (0 : ℚ) < 2 ^ (exponent - 2) := by positivity
  rw [roundsTo_iff positive, roundsTo_iff positive]
  push_cast
  by_cases near : 4 * mantissa * 2 ^ (exponent - 2) - (low : ℚ) * 10 ^ place <
      quartersBelow mantissa exponent * 2 ^ (exponent - 2)
  · left
    have lower : (4 * mantissa - quartersBelow mantissa exponent) * 2 ^ (exponent - 2) <
        (low : ℚ) * 10 ^ place := by linarith
    have upper : (low : ℚ) * 10 ^ place < (4 * mantissa + 2) * 2 ^ (exponent - 2) := by linarith
    exact ⟨lower.le, upper.le, fun _ => ⟨lower, upper⟩⟩
  · right
    have quarters : (0 : ℚ) ≤ quartersBelow mantissa exponent * 2 ^ (exponent - 2) := by positivity
    have lower : (4 * mantissa - quartersBelow mantissa exponent) * 2 ^ (exponent - 2) <
        ((low : ℚ) + 1) * 10 ^ place := by linarith
    have upper : ((low : ℚ) + 1) * 10 ^ place < (4 * mantissa + 2) * 2 ^ (exponent - 2) := by
      linarith
    exact ⟨lower.le, upper.le, fun _ => ⟨lower, upper⟩⟩

/-- On such a grid something is found. -/
theorem isSome_nearestOn (tie : Tie) (positive : 0 < mantissa)
    (fine : (10 : ℚ) ^ place < (quartersBelow mantissa exponent + 2) * 2 ^ (exponent - 2)) :
    (nearestOn tie mantissa exponent place).isSome = true := by
  have one := roundsTo_neighbour positive rfl fine
  unfold nearestOn
  dsimp only
  generalize 4 * mantissa * (Grid.at exponent place).unit / (Grid.at exponent place).step = low
    at one ⊢
  cases first : roundsTo mantissa exponent (Grid.at exponent place) low with
  | true =>
      cases roundsTo mantissa exponent (Grid.at exponent place) (low + 1) with
      | true =>
          dsimp only
          split
          · rfl
          · split
            · rfl
            · cases tie <;> rfl
      | false => rfl
  | false =>
      rw [one.resolve_left (Bool.eq_false_iff.mp first)]
      rfl

/-! ## The shortest decimal -/

/-- Seventeen digits make the grid finer than the interval is wide. -/
theorem seventeen_digits (canonical : IsCanonical mantissa exponent) (positive : 0 < mantissa) :
    (10 : ℚ) ^ (leadingExponent mantissa exponent - 16) <
      (quartersBelow mantissa exponent + 2) * 2 ^ (exponent - 2) := by
  have leading := (leadingExponent_spec exponent positive).1
  have unit : (0 : ℚ) < 2 ^ (exponent - 2) := by positivity
  have fits : (mantissa : ℚ) < 2 ^ 53 := by exact_mod_cast canonical.fits
  rw [size_eq_quarters] at leading
  rw [zpow_sub₀ (by norm_num), div_lt_iff₀ (by positivity)]
  apply leading.trans_lt
  have enough : (4 * mantissa : ℚ) < (quartersBelow mantissa exponent + 2) * 10 ^ 16 := by
    unfold quartersBelow
    split
    · next isPower =>
        rw [isPower.1, Nat.shiftLeft_eq]
        norm_num
    · push_cast
      linarith
  have scaled := mul_lt_mul_of_pos_right enough unit
  calc (4 * mantissa * 2 ^ (exponent - 2) : ℚ)
      < (quartersBelow mantissa exponent + 2) * 10 ^ 16 * 2 ^ (exponent - 2) := scaled
    _ = (quartersBelow mantissa exponent + 2) * 2 ^ (exponent - 2) * 10 ^ (16 : Int) := by
        rw [mul_right_comm]
        norm_num

theorem value_dropZeros (fuel : Nat) (decimal : Scaled) :
    (dropZeros fuel decimal).value = decimal.value := by
  induction fuel generalizing decimal with
  | zero => rfl
  | succ fuel inductionHypothesis =>
      rw [dropZeros]
      split
      · next zero =>
          have whole : decimal.digits = decimal.digits / 10 * 10 := by omega
          rw [inductionHypothesis, Scaled.value, Scaled.value]
          dsimp only
          rw [zpow_add₀ (by norm_num), zpow_one]
          nth_rewrite 2 [whole]
          push_cast
          ring
      · rfl

/-- The shortest decimal of a double that is not zero lies in its interval. -/
theorem surrounds_shortest (tie : Tie) (canonical : IsCanonical mantissa exponent)
    (positive : 0 < mantissa) :
    Surrounds mantissa exponent (shortest tie mantissa exponent).value := by
  rw [shortest, if_neg (Nat.ne_of_gt positive)]
  dsimp only
  rw [value_dropZeros]
  generalize searched : (List.range 17).findSome? (fun (n : Nat) =>
    (nearestOn tie mantissa exponent (leadingExponent mantissa exponent - n)).map fun d =>
      Scaled.mk d (leadingExponent mantissa exponent - n)) = hit
  cases hit with
  | none =>
      have none := List.findSome?_eq_none_iff.mp searched 16 (by decide)
      have some := isSome_nearestOn tie positive (seventeen_digits canonical positive)
      rw [Option.map_eq_none_iff] at none
      rw [show ((16 : Nat) : Int) = 16 from rfl] at none
      rw [none] at some
      cases some
  | some decimal =>
      rcases List.exists_of_findSome?_eq_some searched with ⟨n, -, found⟩
      rcases Option.map_eq_some_iff.mp found with ⟨d, nearest, rfl⟩
      exact surrounds_of_nearestOn positive nearest

/-- The shortest decimal of a double rounds to the double. -/
theorem roundsTo_shortest (tie : Tie) (canonical : IsCanonical mantissa exponent) :
    RoundsTo (shortest tie mantissa exponent).value (size mantissa exponent) := by
  rcases Nat.eq_zero_or_pos mantissa with isZero | positive
  · have zero : (shortest tie mantissa exponent).value = size mantissa exponent := by
      rw [isZero, shortest, if_pos rfl, Scaled.value, size_zero, Nat.cast_zero, zero_mul]
    rw [zero]
    exact roundsTo_self
  · exact (surrounds_shortest tie canonical positive).roundsTo canonical positive

theorem value_shortest_nonneg (tie : Tie) (mantissa : Nat) (exponent : Int) :
    0 ≤ (shortest tie mantissa exponent).value := by
  unfold Scaled.value
  positivity

theorem value_shortest_pos (tie : Tie) (canonical : IsCanonical mantissa exponent)
    (positive : 0 < mantissa) : 0 < (shortest tie mantissa exponent).value :=
  (surrounds_shortest tie canonical positive).pos positive

end

end Decimal
end Artboard
