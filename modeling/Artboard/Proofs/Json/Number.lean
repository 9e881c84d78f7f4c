import Mathlib.Data.List.Basic
import Artboard.Json.Number
import Artboard.Proofs.Json.Attempt
import Artboard.Proofs.Json.Source

/-!
# Reading numbers

The reader of numbers looks one character beyond the number to see that it ends.  So a
number is read as the same value whatever stands behind it, as long as that does not go
on with the number.  What the value is follows the parts of the number: the whole digits
give a significand, fraction digits extend it, the exponent scales it.

The other way round, a text that the reader takes something off begins with a number as
the grammar has it.
-/

namespace Artboard
namespace Json

/-- The text does not go on with a number. -/
def EndsNumber (rest : List Char) : Prop :=
  ∀ c ∈ rest.head?, c.isDigit = false ∧ c ≠ '.' ∧ c ≠ 'e' ∧ c ≠ 'E'

/-- The text does not go on with digits. -/
def EndsDigits (rest : List Char) : Prop :=
  ∀ c ∈ rest.head?, c.isDigit = false

theorem EndsNumber.endsDigits {rest : List Char} (ends : EndsNumber rest) : EndsDigits rest :=
  fun c member => (ends c member).1

/-! ## What numbers stand for -/

/-- A significand scaled by a power of ten, if that is in range. -/
def scaledValue? (negative : Bool) (significand : Nat) (exponent : Int) : Option Numeral :=
  (scaled? significand exponent).map fun value => .real (withSign negative value)

/-- A significand scaled by an exponent on top of a power of ten. -/
def exponentValue? (negative : Bool) (significand : Nat) (start : Int) :
    Option Exponent → Option Numeral
  | none => scaledValue? negative significand start
  | some exponent =>
    let (value, beyond) := absorb exponentBound 0 exponent.digits.chars
    if beyond.isEmpty then
      scaledValue? negative significand
        (if exponent.sign = ['-'] then start - value else start + value)
    else if significand ≠ 0 ∧ exponent.sign ≠ ['-'] then none
    else some (.real (withSign negative 0.0))

/-- A significand with the digits of a fraction, scaled. -/
def fractionValue? (negative : Bool) (significand : Nat) (start : Int) (digits : Digits)
    (exponent : Option Exponent) : Option Numeral :=
  let (extended, dropped) := absorb significandBound significand digits.chars
  exponentValue? negative extended
    (start - ((digits.chars.length - dropped.length : Nat) : Int)) exponent

/-- What a number is read as, if it is in range. -/
def NumberText.value? (number : NumberText) : Option Numeral :=
  let (significand, beyond) := absorb significandBound 0 number.whole.chars
  match number.fraction, number.exponent with
  | some digits, exponent =>
    fractionValue? number.negative significand beyond.length digits exponent
  | none, some exponent =>
    exponentValue? number.negative significand beyond.length (some exponent)
  | none, none =>
    if beyond.isEmpty then some (wholeNumeral number.negative significand)
    else scaledValue? number.negative significand beyond.length

/-! ## Reading -/

theorem attempt_finish (negative : Bool) (significand : Nat) (exponent : Int)
    (rest : List Char) :
    attempt (finish negative significand exponent) rest =
      (scaledValue? negative significand exponent).map fun value => (value, rest) := by
  rw [finish, scaledValue?]
  cases scaled? significand exponent <;> rfl

theorem takeWhile_digits (digits : Digits) {rest : List Char} (ends : EndsDigits rest) :
    (digits.chars ++ rest).takeWhile Char.isDigit = digits.chars := by
  rw [List.takeWhile_append_of_pos digits.areDigits]
  cases rest with
  | nil => simp
  | cons c rest => simp [ends c rfl]

theorem dropWhile_digits (digits : Digits) {rest : List Char} (ends : EndsDigits rest) :
    (digits.chars ++ rest).dropWhile Char.isDigit = rest := by
  rw [List.dropWhile_append_of_pos digits.areDigits]
  cases rest with
  | nil => rfl
  | cons c rest => simp [ends c rfl]

theorem ne_sign_of_isDigit {c : Char} (isDigit : c.isDigit = true) : c ≠ '+' ∧ c ≠ '-' := by
  constructor
  · intro same
    subst same
    cases isDigit
  · intro same
    subst same
    cases isDigit

/-- Read an exponent from behind its sign. -/
def readUnsignedExponent (negative : Bool) (significand : Nat) (start : Int) (down : Bool) :
    Reader Numeral := do
  match ← get with
  | [] => failHere .endOfValue
  | c :: tail =>
    if !c.isDigit then failAhead .invalidNumber
    else
      let digits := (c :: tail).takeWhile Char.isDigit
      let (exponent, beyond) := absorb exponentBound 0 digits
      if beyond.isEmpty then
        set ((c :: tail).drop digits.length)
        finish negative significand (if down then start - exponent else start + exponent)
      else if significand ≠ 0 ∧ !down then
        set ((c :: tail).drop (digits.length - beyond.length + 1))
        failHere .numberOutOfRange
      else
        set ((c :: tail).drop digits.length)
        return .real (withSign negative 0.0)

/-- The sign of an exponent is read before anything else. -/
theorem attempt_readExponent_eq (negative : Bool) (significand : Nat) (start : Int)
    (text : List Char) :
    attempt (readExponent negative significand start) text =
      match text with
      | '+' :: tail => attempt (readUnsignedExponent negative significand start false) tail
      | '-' :: tail => attempt (readUnsignedExponent negative significand start true) tail
      | _ => attempt (readUnsignedExponent negative significand start false) text := by
  rw [readExponent, attempt_bind, attempt_get, Option.bind_some]
  dsimp only
  split
  · next tail => cases tail <;> rfl
  · next tail => cases tail <;> rfl
  · next notPlus notMinus =>
      rcases text with _ | ⟨c, tail⟩
      · rfl
      · simp [readUnsignedExponent]

theorem attempt_readUnsignedExponent (negative : Bool) (significand : Nat) (start : Int)
    (exponent : Exponent) {rest : List Char} (ends : EndsDigits rest) :
    attempt (readUnsignedExponent negative significand start (exponent.sign = ['-']))
        (exponent.digits.chars ++ rest) =
      (exponentValue? negative significand start (some exponent)).map
        fun value => (value, rest) := by
  have run := takeWhile_digits exponent.digits ends
  rcases exponent with ⟨letter, isLetter, sign, isSign, ⟨chars, areDigits, nonempty⟩⟩
  rcases chars with _ | ⟨d, ds⟩
  · exact absurd rfl nonempty
  · have isDigit := areDigits d List.mem_cons_self
    replace run : (d :: (ds ++ rest)).takeWhile Char.isDigit = d :: ds := run
    by_cases fits : (absorb exponentBound 0 (d :: ds)).2 = [] <;>
      by_cases kept : significand ≠ 0 ∧ sign ≠ ['-'] <;>
        simp [readUnsignedExponent, isDigit, run, exponentValue?, attempt_finish, fits, kept]

theorem attempt_readExponent (negative : Bool) (significand : Nat) (start : Int)
    (exponent : Exponent) {rest : List Char} (ends : EndsDigits rest) :
    attempt (readExponent negative significand start)
        (exponent.sign ++ (exponent.digits.chars ++ rest)) =
      (exponentValue? negative significand start (some exponent)).map
        fun value => (value, rest) := by
  have unsigned := attempt_readUnsignedExponent negative significand start exponent ends
  rw [attempt_readExponent_eq]
  rcases exponent.isSign with same | same | same
  · obtain ⟨d, ds, chars⟩ := List.exists_cons_of_ne_nil exponent.digits.nonempty
    have notSign := ne_sign_of_isDigit
      (exponent.digits.areDigits d (by rw [chars]; exact List.mem_cons_self))
    rw [same, chars] at unsigned ⊢
    split
    · next text => exact absurd (List.cons.inj text).1 notSign.1
    · next text => exact absurd (List.cons.inj text).1 notSign.2
    · exact unsigned
  · rw [same] at unsigned ⊢
    exact unsigned
  · rw [same] at unsigned ⊢
    exact unsigned

/-- An exponent ends the digits before it. -/
theorem endsDigits_exponent (exponent : Option Exponent) {rest : List Char}
    (ends : EndsNumber rest) : EndsDigits (renderExponent exponent ++ rest) := by
  cases exponent with
  | none => exact ends.endsDigits
  | some exponent =>
      intro c member
      have letter : exponent.letter = c := Option.some.inj member
      rcases exponent.isLetter with same | same <;> rw [← letter, same] <;> rfl

/-- A fraction or an exponent ends the digits before it. -/
theorem endsDigits_behind (number : NumberText) {rest : List Char} (ends : EndsNumber rest) :
    EndsDigits (number.renderBehind ++ rest) := by
  rw [NumberText.renderBehind]
  cases number.fraction with
  | none => exact endsDigits_exponent number.exponent ends
  | some digits =>
      intro c member
      have point : '.' = c := Option.some.inj member
      rw [← point]
      rfl

theorem attempt_readFraction (negative : Bool) (significand : Nat) (start : Int)
    (digits : Digits) (exponent : Option Exponent) {rest : List Char} (ends : EndsNumber rest) :
    attempt (readFraction negative significand start)
        (digits.chars ++ (renderExponent exponent ++ rest)) =
      (fractionValue? negative significand start digits exponent).map
        fun value => (value, rest) := by
  have run := takeWhile_digits digits (endsDigits_exponent exponent ends)
  rw [readFraction, fractionValue?]
  simp only [attempt_bind, attempt_get, Option.bind_some, run, List.isEmpty_iff,
    digits.nonempty, if_false, List.drop_left, attempt_set]
  cases exponent with
  | none =>
      rw [renderExponent, List.nil_append]
      split
      · exact absurd rfl (ends 'e' rfl).2.2.1
      · exact absurd rfl (ends 'E' rfl).2.2.2
      · exact attempt_finish _ _ _ _
  | some exponent =>
      have further := attempt_readExponent negative
        (absorb significandBound significand digits.chars).1
        (start - ((digits.chars.length -
          (absorb significandBound significand digits.chars).2.length : Nat) : Int))
        exponent ends.endsDigits
      rcases exponent with ⟨letter, isLetter, sign, isSign, exponentDigits⟩
      rcases isLetter with same | same <;> subst same <;>
        simpa [renderExponent, Exponent.render] using further

/-- The reader takes exactly the whole digits first. -/
theorem attempt_readDigits (number : NumberText) {rest : List Char} (ends : EndsNumber rest) :
    attempt (readDigits number.negative)
        (number.whole.chars ++ (number.renderBehind ++ rest)) =
      number.value?.map fun value => (value, rest) := by
  have run := takeWhile_digits number.whole (endsDigits_behind number ends)
  have behind := endsDigits_behind number ends
  obtain ⟨d, ds, chars⟩ := List.exists_cons_of_ne_nil number.whole.nonempty
  have isDigit : d.isDigit = true := by
    apply number.whole.areDigits
    rw [chars]
    exact List.mem_cons_self
  have alone : d = '0' → number.whole.chars = ['0'] := by
    intro zero
    apply number.leading
    rw [chars, zero]
    rfl
  have whole : (if d = '0' then ['0'] else
      (number.whole.chars ++ (number.renderBehind ++ rest)).takeWhile Char.isDigit) =
        number.whole.chars := by
    by_cases zero : d = '0'
    · rw [if_pos zero, alone zero]
    · rw [if_neg zero, run]
  have noMore : ¬(d = '0' ∧
      (ds ++ (number.renderBehind ++ rest)).head?.any Char.isDigit = true) := by
    rintro ⟨zero, more⟩
    have none := alone zero
    rw [chars] at none
    rw [(List.cons.inj none).2, List.nil_append] at more
    cases head : (number.renderBehind ++ rest).head? with
    | none => simp [head] at more
    | some c => simp [head, behind c head] at more
  have text : number.whole.chars ++ (number.renderBehind ++ rest) =
      d :: (ds ++ (number.renderBehind ++ rest)) := by
    rw [chars, List.cons_append]
  rw [readDigits, attempt_bind, attempt_get, Option.bind_some]
  dsimp only
  split
  · next same =>
      rw [text] at same
      cases same
  · next c tail same =>
      rw [text] at same
      cases same
      simp only [isDigit, Bool.not_true, Bool.false_eq_true, if_false, if_neg noMore, whole,
        List.drop_left, attempt_bind, attempt_set, Option.bind_some]
      rw [NumberText.renderBehind, NumberText.value?, List.append_assoc]
      cases number.fraction with
      | some digits =>
          have further := attempt_readFraction number.negative
            (absorb significandBound 0 number.whole.chars).1
            (absorb significandBound 0 number.whole.chars).2.length digits number.exponent ends
          simpa [renderFraction] using further
      | none =>
          cases number.exponent with
          | some exponent =>
              have further := attempt_readExponent number.negative
                (absorb significandBound 0 number.whole.chars).1
                (absorb significandBound 0 number.whole.chars).2.length exponent ends.endsDigits
              rcases exponent with ⟨letter, isLetter, sign, isSign, digits⟩
              rcases isLetter with same | same <;> subst same <;>
                simpa [renderFraction, renderExponent, Exponent.render] using further
          | none =>
              rw [renderFraction, renderExponent, List.nil_append, List.nil_append]
              split
              · exact absurd rfl (ends '.' rfl).2.1
              · exact absurd rfl (ends 'e' rfl).2.2.1
              · exact absurd rfl (ends 'E' rfl).2.2.2
              · by_cases fits : (absorb significandBound 0 number.whole.chars).2 = [] <;>
                  simp [attempt_finish, fits]

/-- The first character of a number is its sign or a digit. -/
theorem exists_head_number (number : NumberText) :
    ∃ c chars, number.render = c :: chars ∧ (c = '-' ∨ c.isDigit = true) := by
  rw [NumberText.render]
  cases number.negative with
  | true => exact ⟨'-', _, rfl, Or.inl rfl⟩
  | false =>
      obtain ⟨d, ds, chars⟩ := List.exists_cons_of_ne_nil number.whole.nonempty
      refine ⟨d, ds ++ number.renderBehind, by simp [chars], Or.inr ?_⟩
      apply number.whole.areDigits
      rw [chars]
      exact List.mem_cons_self

theorem head?_whole_ne_sign (number : NumberText) (rest : List Char) :
    (number.whole.chars ++ rest).head? ≠ some '-' := by
  obtain ⟨d, ds, chars⟩ := List.exists_cons_of_ne_nil number.whole.nonempty
  intro same
  rw [chars] at same
  have isDigit := number.whole.areDigits d (by rw [chars]; exact List.mem_cons_self)
  exact (ne_sign_of_isDigit isDigit).2 (Option.some.inj same)

/-- A number is read as what it stands for, whatever follows it. -/
theorem attempt_readNumber (number : NumberText) {rest : List Char} (ends : EndsNumber rest) :
    attempt readNumber (number.render ++ rest) =
      number.value?.map fun value => (value, rest) := by
  have digits := attempt_readDigits number ends
  have noSign := head?_whole_ne_sign number (number.renderBehind ++ rest)
  rw [readNumber, NumberText.render]
  cases negative : number.negative with
  | true =>
      rw [negative] at digits
      simpa using digits
  | false =>
      rw [negative] at digits
      simp only [Bool.false_eq_true, if_false, List.nil_append, List.append_assoc, attempt_bind,
        attempt_get, Option.bind_some, noSign]
      exact digits

/-! ## Passing over -/

theorem attempt_skipDigits (digits : Digits) {rest : List Char} (ends : EndsDigits rest) :
    attempt skipDigits (digits.chars ++ rest) = some ((), rest) := by
  rw [skipDigits, attempt_modify, dropWhile_digits digits ends]

@[simp] theorem any_isDigit_digits (digits : Digits) (next : Option Char) :
    (digits.chars.head?.or next).any Char.isDigit = true := by
  obtain ⟨d, ds, chars⟩ := List.exists_cons_of_ne_nil digits.nonempty
  have isDigit := digits.areDigits d (by rw [chars]; exact List.mem_cons_self)
  simp [chars, isDigit]

theorem attempt_skipExponent (exponent : Exponent) {rest : List Char} (ends : EndsDigits rest) :
    attempt skipExponent (exponent.sign ++ (exponent.digits.chars ++ rest)) =
      some ((), rest) := by
  have skipped := attempt_skipDigits exponent.digits ends
  rcases exponent.isSign with same | same | same
  · obtain ⟨d, ds, chars⟩ := List.exists_cons_of_ne_nil exponent.digits.nonempty
    have notSign := ne_sign_of_isDigit
      (exponent.digits.areDigits d (by rw [chars]; exact List.mem_cons_self))
    rw [skipExponent, same, List.nil_append]
    simp only [attempt_bind, attempt_get, Option.bind_some]
    split
    · next text =>
        rw [chars] at text
        exact absurd (List.cons.inj text).1 notSign.1
    · next text =>
        rw [chars] at text
        exact absurd (List.cons.inj text).1 notSign.2
    · simp [skipped]
  · simp [skipExponent, same, skipped]
  · simp [skipExponent, same, skipped]

theorem attempt_skipFraction (digits : Digits) (exponent : Option Exponent) {rest : List Char}
    (ends : EndsNumber rest) :
    attempt skipFraction (digits.chars ++ (renderExponent exponent ++ rest)) =
      some ((), rest) := by
  have skipped := attempt_skipDigits digits (endsDigits_exponent exponent ends)
  rw [skipFraction]
  simp only [attempt_bind, attempt_get, Option.bind_some, List.head?_append,
    any_isDigit_digits, Bool.not_true, Bool.false_eq_true, if_false, skipped]
  cases exponent with
  | none =>
      rw [renderExponent, List.nil_append]
      split
      · exact absurd rfl (ends 'e' rfl).2.2.1
      · exact absurd rfl (ends 'E' rfl).2.2.2
      · rfl
  | some exponent =>
      have further := attempt_skipExponent exponent ends.endsDigits
      rcases exponent with ⟨letter, isLetter, sign, isSign, exponentDigits⟩
      rcases isLetter with same | same <;> subst same <;>
        simpa [renderExponent, Exponent.render] using further

/-- Pass over a fraction and an exponent, if any. -/
def skipBehind : Reader Unit := do
  match ← get with
  | '.' :: _ => do advance; skipFraction
  | 'e' :: _ | 'E' :: _ => do advance; skipExponent
  | _ => pure ()

/-- Pass over a number from behind its sign. -/
def skipUnsigned : Reader Unit := do
  match ← get with
  | [] => failHere .invalidNumber
  | '0' :: tail => do
    advance
    if tail.head?.any Char.isDigit then failAhead .invalidNumber
  | c :: _ => if c.isDigit then skipDigits else failAhead .invalidNumber
  skipBehind

theorem skipNumber_eq : skipNumber = (do
    if (← get).head? = some '-' then advance
    skipUnsigned) := rfl

theorem attempt_skipBehind (number : NumberText) {rest : List Char} (ends : EndsNumber rest) :
    attempt skipBehind (number.renderBehind ++ rest) = some ((), rest) := by
  rw [skipBehind, NumberText.renderBehind, List.append_assoc]
  cases number.fraction with
  | some digits =>
      have skipped := attempt_skipFraction digits number.exponent ends
      simpa [renderFraction] using skipped
  | none =>
      cases number.exponent with
      | some exponent =>
          have skipped := attempt_skipExponent exponent ends.endsDigits
          rcases exponent with ⟨letter, isLetter, sign, isSign, digits⟩
          rcases isLetter with same | same <;> subst same <;>
            simpa [renderFraction, renderExponent, Exponent.render] using skipped
      | none =>
          rw [renderFraction, renderExponent, List.nil_append, List.nil_append, attempt_bind,
            attempt_get, Option.bind_some]
          dsimp only
          split
          · exact absurd rfl (ends '.' rfl).2.1
          · exact absurd rfl (ends 'e' rfl).2.2.1
          · exact absurd rfl (ends 'E' rfl).2.2.2
          · rfl

theorem attempt_skipUnsigned (number : NumberText) {rest : List Char} (ends : EndsNumber rest) :
    attempt skipUnsigned (number.whole.chars ++ (number.renderBehind ++ rest)) =
      some ((), rest) := by
  have behind := attempt_skipBehind number ends
  have skipped := attempt_skipDigits number.whole (endsDigits_behind number ends)
  obtain ⟨d, ds, chars⟩ := List.exists_cons_of_ne_nil number.whole.nonempty
  have isDigit := number.whole.areDigits d (by rw [chars]; exact List.mem_cons_self)
  rw [skipUnsigned, attempt_bind, attempt_get, Option.bind_some]
  dsimp only
  split
  · next same =>
      rw [chars] at same
      cases same
  · next tail same =>
      -- A leading zero is the only digit, so what follows it is no digit.
      have zero : number.whole.chars = ['0'] := by
        apply number.leading
        rw [chars] at same ⊢
        rw [(List.cons.inj same).1]
        rfl
      have next : tail = number.renderBehind ++ rest := by
        rw [zero] at same
        exact (List.cons.inj same).2.symm
      have noMore : tail.head?.any Char.isDigit = false := by
        have ends := endsDigits_behind number ends
        rw [← next] at ends
        cases head : tail.head? with
        | none => rfl
        | some c => exact ends c head
      rw [zero, ← next]
      rw [← next] at behind
      simp [noMore, behind]
  · next c tail _ same =>
      rw [chars] at same
      rw [← (List.cons.inj same).1, if_pos isDigit, attempt_bind, skipped]
      exact behind

/-- Passing over a number succeeds, however large the number is. -/
theorem attempt_skipNumber (number : NumberText) {rest : List Char} (ends : EndsNumber rest) :
    attempt skipNumber (number.render ++ rest) = some ((), rest) := by
  have unsigned := attempt_skipUnsigned number ends
  have noSign := head?_whole_ne_sign number (number.renderBehind ++ rest)
  rw [skipNumber_eq, NumberText.render]
  cases number.negative with
  | true => simpa using unsigned
  | false =>
      simp only [Bool.false_eq_true, if_false, List.nil_append, List.append_assoc, attempt_bind,
        attempt_get, Option.bind_some, noSign]
      exact unsigned

/-! ## What is read begins with a number -/

/-- The digits at the front of a text. -/
theorem exists_digits {c : Char} (isDigit : c.isDigit = true) (text : List Char) :
    ∃ (digits : Digits) (rest : List Char), (c :: text).takeWhile Char.isDigit = digits.chars ∧
      c :: text = digits.chars ++ rest := by
  obtain ⟨rest, whole⟩ := List.takeWhile_prefix (l := c :: text) Char.isDigit
  refine ⟨⟨(c :: text).takeWhile Char.isDigit, ?_, ?_⟩, rest, rfl, whole.symm⟩
  · intro d member
    exact List.all_eq_true.mp List.all_takeWhile d member
  · simp [isDigit]

section

variable {negative : Bool} {significand : Nat} {start : Int} {text rest : List Char}
  {value : Numeral}

theorem eq_of_attempt_finish
    (read : attempt (finish negative significand start) text = some (value, rest)) :
    text = rest := by
  rw [attempt_finish] at read
  rcases Option.map_eq_some_iff.mp read with ⟨_, -, same⟩
  exact (Prod.mk.inj same).2

theorem exists_digits_of_attempt {down : Bool}
    (read : attempt (readUnsignedExponent negative significand start down) text =
      some (value, rest)) :
    ∃ digits : Digits, text = digits.chars ++ rest := by
  rcases text with _ | ⟨c, tail⟩
  · cases read
  · cases isDigit : c.isDigit with
    | false => simp [readUnsignedExponent, isDigit] at read
    | true =>
        obtain ⟨digits, behind, run, parts⟩ := exists_digits isDigit tail
        refine ⟨digits, ?_⟩
        simp only [readUnsignedExponent, attempt_bind, attempt_get, Option.bind_some, isDigit,
          run, Bool.not_true, Bool.false_eq_true, if_false] at read
        simp only [parts, List.drop_left] at read
        rw [parts]
        split at read
        · simp only [attempt_bind, attempt_set, Option.bind_some] at read
          rw [eq_of_attempt_finish read]
        · split at read
          · simp at read
          · simp only [attempt_bind, attempt_set, Option.bind_some, attempt_pure] at read
            rw [(Prod.mk.inj (Option.some.inj read)).2]

theorem exists_exponent_of_attempt (letter : Char) (isLetter : letter = 'e' ∨ letter = 'E')
    (read : attempt (readExponent negative significand start) text = some (value, rest)) :
    ∃ exponent : Exponent, letter :: text = exponent.render ++ rest := by
  rw [attempt_readExponent_eq] at read
  split at read
  · obtain ⟨digits, parts⟩ := exists_digits_of_attempt read
    exact ⟨⟨letter, isLetter, ['+'], by simp, digits⟩, by simp [Exponent.render, parts]⟩
  · obtain ⟨digits, parts⟩ := exists_digits_of_attempt read
    exact ⟨⟨letter, isLetter, ['-'], by simp, digits⟩, by simp [Exponent.render, parts]⟩
  · obtain ⟨digits, parts⟩ := exists_digits_of_attempt read
    exact ⟨⟨letter, isLetter, [], by simp, digits⟩, by simp [Exponent.render, parts]⟩

theorem exists_fraction_of_attempt
    (read : attempt (readFraction negative significand start) text = some (value, rest)) :
    ∃ (digits : Digits) (exponent : Option Exponent),
      text = digits.chars ++ (renderExponent exponent ++ rest) := by
  rw [readFraction, attempt_bind, attempt_get, Option.bind_some] at read
  dsimp only at read
  rcases text with _ | ⟨c, tail⟩
  · cases read
  · cases isDigit : c.isDigit with
    | false => simp [isDigit] at read
    | true =>
        obtain ⟨digits, behind, run, parts⟩ := exists_digits isDigit tail
        refine ⟨digits, ?_⟩
        simp only [run, List.isEmpty_iff, digits.nonempty, if_false] at read
        simp only [parts, List.drop_left, attempt_bind, attempt_set, Option.bind_some] at read
        rw [parts]
        split at read
        · obtain ⟨exponent, whole⟩ :=
            exists_exponent_of_attempt 'e' (Or.inl rfl) (by simpa using read)
          exact ⟨some exponent, by rw [whole, renderExponent]⟩
        · obtain ⟨exponent, whole⟩ :=
            exists_exponent_of_attempt 'E' (Or.inr rfl) (by simpa using read)
          exact ⟨some exponent, by rw [whole, renderExponent]⟩
        · exact ⟨none, by rw [eq_of_attempt_finish read]; rfl⟩

/-- The whole digits at the front of a text: a zero alone, or all digits there are. -/
theorem exists_whole {c : Char} (isDigit : c.isDigit = true) (tail : List Char) :
    ∃ (digits : Digits) (behind : List Char),
      (if c = '0' then ['0'] else (c :: tail).takeWhile Char.isDigit) = digits.chars ∧
      (digits.chars.head? = some '0' → digits.chars = ['0']) ∧
      c :: tail = digits.chars ++ behind := by
  by_cases zero : c = '0'
  · refine ⟨⟨['0'], List.forall_mem_singleton.mpr rfl, List.cons_ne_nil _ _⟩, tail,
      by rw [if_pos zero], fun _ => rfl, ?_⟩
    rw [zero]
    rfl
  · obtain ⟨digits, behind, run, parts⟩ := exists_digits isDigit tail
    refine ⟨digits, behind, by rw [if_neg zero, run], ?_, parts⟩
    intro leading
    rw [← run, List.takeWhile_cons_of_pos isDigit] at leading
    exact absurd (Option.some.inj leading) zero

theorem exists_number_of_readDigits
    (read : attempt (readDigits negative) text = some (value, rest)) :
    ∃ number : NumberText, number.negative = negative ∧
      text = number.whole.chars ++ (number.renderBehind ++ rest) := by
  rw [readDigits, attempt_bind, attempt_get, Option.bind_some] at read
  dsimp only at read
  rcases text with _ | ⟨c, tail⟩
  · cases read
  · cases isDigit : c.isDigit with
    | false => simp [isDigit] at read
    | true =>
        simp only [isDigit, Bool.not_true, Bool.false_eq_true, if_false] at read
        split at read
        · simp at read
        · obtain ⟨digits, behind, run, leading, parts⟩ := exists_whole isDigit tail
          simp only [run] at read
          simp only [parts, List.drop_left, attempt_bind, attempt_set, Option.bind_some] at read
          rw [parts]
          split at read
          · obtain ⟨fraction, exponent, more⟩ :=
              exists_fraction_of_attempt (by simpa using read)
            exact ⟨⟨negative, digits, leading, some fraction, exponent⟩, rfl,
              by simp [NumberText.renderBehind, renderFraction, more]⟩
          · obtain ⟨exponent, more⟩ :=
              exists_exponent_of_attempt 'e' (Or.inl rfl) (by simpa using read)
            exact ⟨⟨negative, digits, leading, none, some exponent⟩, rfl,
              by simp [NumberText.renderBehind, renderFraction, renderExponent, more]⟩
          · obtain ⟨exponent, more⟩ :=
              exists_exponent_of_attempt 'E' (Or.inr rfl) (by simpa using read)
            exact ⟨⟨negative, digits, leading, none, some exponent⟩, rfl,
              by simp [NumberText.renderBehind, renderFraction, renderExponent, more]⟩
          · have left : behind = rest := by
              split at read
              · exact (Prod.mk.inj (Option.some.inj read)).2
              · exact eq_of_attempt_finish read
            exact ⟨⟨negative, digits, leading, none, none⟩, rfl,
              by simp [NumberText.renderBehind, renderFraction, renderExponent, left]⟩

/-- A text that a number is read off begins with a number. -/
theorem exists_number_of_attempt (read : attempt readNumber text = some (value, rest)) :
    ∃ number : NumberText, text = number.render ++ rest := by
  rw [readNumber, attempt_bind, attempt_get, Option.bind_some] at read
  dsimp only at read
  split at read
  · next sign =>
      rcases text with _ | ⟨c, tail⟩
      · cases sign
      · obtain ⟨number, negative, parts⟩ := exists_number_of_readDigits (by simpa using read)
        cases sign
        exact ⟨number, by simp [NumberText.render, negative, parts]⟩
  · obtain ⟨number, negative, parts⟩ := exists_number_of_readDigits read
    exact ⟨number, by simp [NumberText.render, negative, parts]⟩

end

end Json
end Artboard
