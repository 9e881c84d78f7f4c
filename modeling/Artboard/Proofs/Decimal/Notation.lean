import Artboard.Decimal.Notation
import Artboard.Proofs.Decimal.Shortest
import Artboard.Proofs.Text.Pieces

/-!
# Decimals read back

A number in positional notation is read as a whole number of digits with a fraction of
digits behind a point, if any, and a minus sign in front, if any.  What is written for a
finite double is read as a number that rounds to the double and to no other, and what is
written for anything else is not read as a number.
-/

namespace Artboard
namespace Decimal

/-! ## Reading -/

/-- The number that digits say. There must be one at least. -/
def digits? (text : List Char) : Option Nat :=
  if text.isEmpty || !text.all Char.isDigit then none else some (Nat.ofDigitChars 10 text 0)

def unsigned? (text : List Char) : Option ℚ :=
  match Text.cut '.' text with
  | (whole, none) => (digits? whole).map fun n => n
  | (whole, some fraction) => do
    let n ← digits? whole
    let f ← digits? fraction
    return n + f / 10 ^ fraction.length

/-- The number that a text says in positional notation. -/
def decimal? : List Char → Option ℚ
  | '-' :: text => (unsigned? text).map fun number => -number
  | text => unsigned? text

/-! ## Digits -/

theorem digits?_of_digits {text : List Char} (written : text ≠ [])
    (areDigits : ∀ c ∈ text, c.isDigit = true) :
    digits? text = some (Nat.ofDigitChars 10 text 0) := by
  rw [digits?, List.isEmpty_eq_false_iff.mpr written, List.all_eq_true.mpr areDigits]
  rfl

theorem ne_of_isDigit {c other : Char} (isDigit : c.isDigit = true)
    (noDigit : other.isDigit = false) : c ≠ other := by
  rintro rfl
  rw [isDigit] at noDigit
  cases noDigit

theorem notMem_of_digits {text : List Char} {other : Char}
    (areDigits : ∀ c ∈ text, c.isDigit = true) (noDigit : other.isDigit = false) :
    other ∉ text := by
  intro member
  exact ne_of_isDigit (areDigits other member) noDigit rfl

theorem isDigit_of_mem_toDigits {n : Nat} {c : Char} (member : c ∈ Nat.toDigits 10 n) :
    c.isDigit = true :=
  Nat.isDigit_of_mem_toDigits (by decide) (Nat.le_refl 10) member

theorem isDigit_of_mem_zeros {count : Nat} {c : Char} (member : c ∈ List.replicate count '0') :
    c.isDigit = true := by
  rw [List.eq_of_mem_replicate member]
  rfl

/-- A whole part alone, or in front of a point with a fraction behind it. -/
def pointed (whole fraction : List Char) : List Char :=
  if fraction.isEmpty then whole else whole ++ '.' :: fraction

theorem unsigned?_whole {whole : List Char} (written : whole ≠ [])
    (areDigits : ∀ c ∈ whole, c.isDigit = true) :
    unsigned? whole = some (Nat.ofDigitChars 10 whole 0 : ℚ) := by
  rw [unsigned?, Text.cut_of_notMem (notMem_of_digits areDigits rfl)]
  dsimp only
  rw [digits?_of_digits written areDigits]
  rfl

theorem unsigned?_fraction {whole fraction : List Char} (written : whole ≠ [])
    (wholeDigits : ∀ c ∈ whole, c.isDigit = true) (behind : fraction ≠ [])
    (fractionDigits : ∀ c ∈ fraction, c.isDigit = true) :
    unsigned? (whole ++ '.' :: fraction) =
      some (Nat.ofDigitChars 10 whole 0 +
        Nat.ofDigitChars 10 fraction 0 / 10 ^ fraction.length : ℚ) := by
  rw [unsigned?, Text.cut_append (notMem_of_digits wholeDigits rfl)]
  dsimp only
  rw [digits?_of_digits written wholeDigits, digits?_of_digits behind fractionDigits]
  rfl

section

variable {text : List Char} {place : Int}

/-- Where the point is in front of the digits, zeros fill the gap. -/
theorem unsigned?_point_before (written : text ≠ [])
    (areDigits : ∀ c ∈ text, c.isDigit = true) (before : place ≤ 0) :
    unsigned? (pointed (positional text place).1 (positional text place).2) =
      some (Nat.ofDigitChars 10 text 0 * 10 ^ (place - text.length) : ℚ) := by
  have behind : List.replicate (-place).toNat '0' ++ text ≠ [] :=
    List.append_ne_nil_of_right_ne_nil _ written
  have fractionDigits : ∀ c ∈ List.replicate (-place).toNat '0' ++ text, c.isDigit = true := by
    intro c member
    rcases List.mem_append.mp member with zero | digit
    · exact isDigit_of_mem_zeros zero
    · exact areDigits c digit
  have length : (((-place).toNat : Int) + text.length) = -(place - text.length) := by
    omega
  have zero : Nat.ofDigitChars 10 ['0'] 0 = 0 := by decide
  have zeroDigit : ∀ c ∈ ['0'], c.isDigit = true := List.forall_mem_singleton.mpr rfl
  rw [positional, if_pos before, pointed, List.isEmpty_eq_false_iff.mpr behind,
    if_neg Bool.false_ne_true,
    unsigned?_fraction (List.cons_ne_nil '0' []) zeroDigit behind fractionDigits,
    Nat.ofDigitChars_append, Nat.ofDigitChars_replicate_zero, Nat.mul_zero, List.length_append,
    List.length_replicate, zero, Nat.cast_zero, zero_add, ← zpow_natCast, Nat.cast_add, length,
    zpow_neg, div_inv_eq_mul]

/-- Where the point is behind the digits, zeros fill the gap and the point is left out. -/
theorem unsigned?_point_behind (written : text ≠ [])
    (areDigits : ∀ c ∈ text, c.isDigit = true) (behind : (text.length : Int) ≤ place) :
    unsigned? (pointed (positional text place).1 (positional text place).2) =
      some (Nat.ofDigitChars 10 text 0 * 10 ^ (place - text.length) : ℚ) := by
  have positive := List.length_pos_iff.mpr written
  have all : text.length ≤ place.toNat := by omega
  have filled : ∀ c ∈ text ++ List.replicate (place.toNat - text.length) '0',
      c.isDigit = true := by
    intro c member
    rcases List.mem_append.mp member with digit | zero
    · exact areDigits c digit
    · exact isDigit_of_mem_zeros zero
  have count : ((place.toNat - text.length : Nat) : Int) = place - text.length := by
    omega
  rw [positional, if_neg (by omega)]
  dsimp only
  rw [List.drop_eq_nil_iff.mpr all, List.take_of_length_le all, pointed, if_pos List.isEmpty_nil,
    unsigned?_whole (List.append_ne_nil_of_left_ne_nil written _) filled,
    Nat.ofDigitChars_append, Nat.ofDigitChars_replicate_zero, Nat.cast_mul, Nat.cast_pow,
    ← zpow_natCast, count, mul_comm]
  rfl

theorem unsigned?_point_inside (areDigits : ∀ c ∈ text, c.isDigit = true) (positive : 0 < place)
    (inside : place < text.length) :
    unsigned? (pointed (positional text place).1 (positional text place).2) =
      some (Nat.ofDigitChars 10 text 0 * 10 ^ (place - text.length) : ℚ) := by
  have less : place.toNat < text.length := by omega
  have behind : text.drop place.toNat ≠ [] := by
    rw [Ne, List.drop_eq_nil_iff]
    omega
  have whole : text.take place.toNat ≠ [] := by
    rw [Ne, List.take_eq_nil_iff]
    rintro (zero | none)
    · omega
    · rw [none] at less
      cases less
  have wholeDigits : ∀ c ∈ text.take place.toNat, c.isDigit = true := fun c member =>
    areDigits c (List.mem_of_mem_take member)
  have fractionDigits : ∀ c ∈ text.drop place.toNat, c.isDigit = true := fun c member =>
    areDigits c (List.mem_of_mem_drop member)
  have split : Nat.ofDigitChars 10 text 0 =
      10 ^ (text.drop place.toNat).length * Nat.ofDigitChars 10 (text.take place.toNat) 0 +
        Nat.ofDigitChars 10 (text.drop place.toNat) 0 := by
    rw [← Nat.ofDigitChars_eq_ofDigitChars_zero, ← Nat.ofDigitChars_append, List.take_append_drop]
  have length : place - text.length = -((text.drop place.toNat).length : Int) := by
    rw [List.length_drop]
    omega
  have noGap : place.toNat - text.length = 0 := by omega
  have tens : (10 : ℚ) ^ (text.drop place.toNat).length ≠ 0 := by positivity
  rw [positional, if_neg (by omega)]
  dsimp only
  rw [noGap, List.replicate_zero, List.append_nil, pointed, List.isEmpty_eq_false_iff.mpr behind,
    if_neg Bool.false_ne_true, unsigned?_fraction whole wholeDigits behind fractionDigits, split,
    length, zpow_neg, zpow_natCast, Nat.cast_add, Nat.cast_mul, Nat.cast_pow, Nat.cast_ofNat,
    ← div_eq_mul_inv, add_div, mul_div_cancel_left₀ _ tens]

/-- Digits with the point at any place among them or beside them. -/
theorem unsigned?_positional (written : text ≠ []) (areDigits : ∀ c ∈ text, c.isDigit = true)
    (place : Int) :
    unsigned? (pointed (positional text place).1 (positional text place).2) =
      some (Nat.ofDigitChars 10 text 0 * 10 ^ (place - text.length) : ℚ) := by
  rcases le_or_gt place 0 with before | positive
  · exact unsigned?_point_before written areDigits before
  · rcases le_or_gt (text.length : Int) place with behind | inside
    · exact unsigned?_point_behind written areDigits behind
    · exact unsigned?_point_inside areDigits positive inside

end

/-- The positional notation of a decimal says its value. -/
theorem unsigned?_decimal (decimal : Scaled) :
    unsigned? (pointed
        (positional (Nat.toDigits 10 decimal.digits)
          ((Nat.toDigits 10 decimal.digits).length + decimal.exponent)).1
        (positional (Nat.toDigits 10 decimal.digits)
          ((Nat.toDigits 10 decimal.digits).length + decimal.exponent)).2) =
      some decimal.value := by
  have place : ((Nat.toDigits 10 decimal.digits).length + decimal.exponent : Int) -
      (Nat.toDigits 10 decimal.digits).length = decimal.exponent := by
    omega
  rw [unsigned?_positional Nat.toDigits_ne_nil (fun _ => isDigit_of_mem_toDigits), place,
    Nat.ofDigitChars_ten_toDigits, Scaled.value]

/-! ## Signs -/

/-- What is read without a sign begins with a digit. -/
theorem head_isDigit_of_unsigned? {c : Char} {text : List Char} {number : ℚ}
    (read : unsigned? (c :: text) = some number) : c.isDigit = true := by
  by_contra noDigit
  have nothing : digits? ((Text.cut '.' (c :: text)).1) = none := by
    rw [Text.cut_fst, digits?]
    by_cases isPoint : c = '.'
    · rw [isPoint, List.takeWhile_cons_of_neg (by simp)]
      rfl
    · rw [List.takeWhile_cons_of_pos (by simpa using isPoint), List.all_cons,
        Bool.eq_false_iff.mpr noDigit]
      rfl
  rw [unsigned?] at read
  split at read
  · next whole parts =>
      rw [parts] at nothing
      dsimp only at nothing
      rw [nothing] at read
      cases read
  · next whole fraction parts =>
      rw [parts] at nothing
      dsimp only at nothing
      rw [nothing] at read
      cases read

theorem decimal?_of_unsigned? {text : List Char} {number : ℚ}
    (read : unsigned? text = some number) : decimal? text = some number := by
  unfold decimal?
  split
  · next rest =>
      have digit := head_isDigit_of_unsigned? read
      cases digit
  · exact read

theorem decimal?_signed {negative : Bool} {text : List Char} {number : ℚ}
    (read : unsigned? text = some number) :
    decimal? (signed negative text).toList = some (if negative then -number else number) := by
  rw [signed, String.toList_ofList]
  cases negative with
  | true =>
      rw [if_pos rfl, if_pos rfl, decimal?, read]
      rfl
  | false =>
      rw [if_neg Bool.false_ne_true, if_neg Bool.false_ne_true]
      exact decimal?_of_unsigned? read

/-! ## Doubles -/

/-- A number is what is written for a finite double: it rounds to the value of the double,
and it has its sign. -/
structure Denotes (number : ℚ) (x : Float) : Prop where
  rounds : ∃ value, value? x = some value ∧ RoundsTo number value
  positive : 0 < number ↔ ∃ value, value? x = some value ∧ 0 < value
  negative : number < 0 ↔ ∃ value, value? x = some value ∧ value < 0

/-- The notation of a finite double is read as a number that denotes it. -/
theorem decimal?_plain {x : Float} {mantissa : Nat} {exponent : Int}
    (finite : magnitude x = .finite mantissa exponent) :
    decimal? (plain x).toList =
      some (if isNegative x then -(shortest .up mantissa exponent).value
        else (shortest .up mantissa exponent).value) := by
  rw [plain, finite]
  exact decimal?_signed (unsigned?_decimal _)

theorem denotes_shortest {x : Float} {mantissa : Nat} {exponent : Int}
    (finite : magnitude x = .finite mantissa exponent) :
    Denotes (if isNegative x then -(shortest .up mantissa exponent).value
        else (shortest .up mantissa exponent).value) x := by
  have canonical := isCanonical_of_magnitude finite
  have rounds := roundsTo_shortest .up canonical
  have valued := value?_of_finite finite
  have nonneg := value_shortest_nonneg .up mantissa exponent
  have sizeNonneg := size_nonneg mantissa exponent
  have positive : 0 < (shortest .up mantissa exponent).value ↔ 0 < size mantissa exponent := by
    rcases Nat.eq_zero_or_pos mantissa with isZero | mantissaPos
    · rw [isZero, shortest, if_pos rfl, Scaled.value, size_zero, Nat.cast_zero, zero_mul]
    · have sizePos : 0 < size mantissa exponent := by
        rw [← size_zero exponent]
        exact size_lt_size_iff.mpr mantissaPos
      exact iff_of_true (value_shortest_pos .up canonical mantissaPos) sizePos
  have unique : ∀ {property : ℚ → Prop}, (∃ value, value? x = some value ∧ property value) ↔
      property (if isNegative x then -size mantissa exponent else size mantissa exponent) := by
    intro property
    rw [valued]
    simp
  constructor
  · refine ⟨_, valued, ?_⟩
    split
    · exact rounds.neg
    · exact rounds
  · rw [unique]
    split
    · exact iff_of_false (by linarith) (by linarith)
    · exact positive
  · rw [unique]
    split
    · rw [neg_lt_zero, neg_lt_zero]
      exact positive
    · exact iff_of_false (not_lt.mpr nonneg) (not_lt.mpr sizeNonneg)

end Decimal
end Artboard
