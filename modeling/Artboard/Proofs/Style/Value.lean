import Artboard.Proofs.Style.RoundTrip
import Artboard.Style.Layer

/-!
# Computed values

Numbers, lengths, colours, gradients and shadows are put together from digits, signs and
words, with blanks and commas only in between.  So none of them has a mark in it, whatever
the numbers of a design are, and each of them is read back as it is written.
-/

namespace Artboard
namespace Style

/-- A text without marks that begins with something else than a blank. -/
structure IsLead (value : String) : Prop where
  unmarked : isUnmarked value.toList = true
  begins : (value.toList.head?.any fun c => !isBlank c) = true

/-- A text without marks that begins and ends with something else than a blank. -/
structure IsPlain (value : String) : Prop extends IsLead value where
  ends : (value.toList.getLast?.any fun c => !isBlank c) = true

/-! ## Putting texts together -/

theorem isUnmarked_append {first second : List Char} (one : isUnmarked first = true)
    (other : isUnmarked second = true) : isUnmarked (first ++ second) = true := by
  rw [isUnmarked, List.all_append]
  exact Bool.and_eq_true_iff.mpr ⟨one, other⟩

/-- An end of a text that is there and is not a blank. -/
theorem exists_of_any {ending : Option Char} (any : (ending.any fun c => !isBlank c) = true) :
    ∃ c, ending = some c ∧ isBlank c = false := by
  cases ending with
  | none => cases any
  | some c => exact ⟨c, rfl, by simpa using any⟩

theorem IsLead.append {first second : String} (lead : IsLead first)
    (unmarked : isUnmarked second.toList = true) : IsLead (first ++ second) := by
  constructor
  · rw [String.toList_append]
    exact isUnmarked_append lead.unmarked unmarked
  · have begins := lead.begins
    rcases exists_of_any begins with ⟨c, isFirst, -⟩
    rw [isFirst] at begins
    rw [String.toList_append, List.head?_append, isFirst]
    exact begins

theorem IsLead.isPlain_append {first second : String} (lead : IsLead first)
    (plain : IsPlain second) : IsPlain (first ++ second) := by
  have ends := plain.ends
  rcases exists_of_any ends with ⟨c, isLast, -⟩
  rw [isLast] at ends
  refine ⟨lead.append plain.unmarked, ?_⟩
  rw [String.toList_append, List.getLast?_append, isLast]
  exact ends

theorem IsPlain.tight {value : String} (plain : IsPlain value) : IsTight value.toList := by
  constructor
  · intro c isFirst
    rcases exists_of_any plain.begins with ⟨first, isHead, notBlank⟩
    rw [Option.mem_unique isFirst isHead]
    exact notBlank
  · intro c isLast
    rcases exists_of_any plain.ends with ⟨last, isEnd, notBlank⟩
    rw [Option.mem_unique isLast isEnd]
    exact notBlank

/-! ## Words and numbers -/

def isWordChar (c : Char) : Bool :=
  c.isAlphanum || c == '-' || c == '.'

def isWord (value : String) : Bool :=
  !value.toList.isEmpty && value.toList.all isWordChar

theorem isWord_of_chars {value : String} (nonempty : value.toList ≠ [])
    (chars : ∀ c ∈ value.toList, isWordChar c = true) : isWord value = true := by
  rw [isWord, List.all_eq_true.mpr chars, Bool.and_true, Bool.not_eq_true', List.isEmpty_eq_false_iff]
  exact nonempty

theorem isPlain_of_isWord {value : String} (word : isWord value = true) : IsPlain value := by
  rcases Bool.and_eq_true_iff.mp word with ⟨isWritten, chars⟩
  have nonempty : value.toList ≠ [] := by
    intro empty
    rw [empty] at isWritten
    cases isWritten
  have excludes : (specialChars.all fun other => !isWordChar other) = true := by decide
  have plain : ∀ c ∈ value.toList, isMark c = false ∧ isBlank c = false := by
    intro c member
    exact plain_of_class excludes (List.all_eq_true.mp chars c member)
  constructor
  · constructor
    · apply List.all_eq_true.mpr
      intro c member
      rw [(plain c member).1]
      rfl
    · rw [List.head?_eq_some_head nonempty, Option.any_some,
        (plain _ (List.head_mem nonempty)).2]
      rfl
  · rw [List.getLast?_eq_some_getLast nonempty, Option.any_some,
      (plain _ (List.getLast_mem nonempty)).2]
    rfl

theorem mem_signed {negative : Bool} {text : List Char} {c : Char}
    (member : c ∈ (Decimal.signed negative text).toList) : c = '-' ∨ c ∈ text := by
  rw [Decimal.signed, String.toList_ofList] at member
  cases negative with
  | true => exact List.mem_cons.mp member
  | false => exact Or.inr member

theorem signed_ne_nil {negative : Bool} {text : List Char} (nonempty : text ≠ []) :
    (Decimal.signed negative text).toList ≠ [] := by
  rw [Decimal.signed, String.toList_ofList]
  cases negative with
  | true => exact List.cons_ne_nil _ _
  | false => exact nonempty

theorem mem_positional {digits : List Char} {place : Int} {c : Char}
    (member : c ∈ (Decimal.positional digits place).1 ∨
      c ∈ (Decimal.positional digits place).2) : c = '0' ∨ c ∈ digits := by
  unfold Decimal.positional at member
  split at member
  · rcases member with whole | fraction
    · exact Or.inl (List.mem_singleton.mp whole)
    · rcases List.mem_append.mp fraction with zero | digit
      · exact Or.inl (List.eq_of_mem_replicate zero)
      · exact Or.inr digit
  · rcases member with whole | fraction
    · rcases List.mem_append.mp whole with digit | zero
      · exact Or.inr (List.mem_of_mem_take digit)
      · exact Or.inl (List.eq_of_mem_replicate zero)
    · exact Or.inr (List.mem_of_mem_drop fraction)

theorem positional_ne_nil {digits : List Char} (place : Int) (nonempty : digits ≠ []) :
    (Decimal.positional digits place).1 ≠ [] := by
  unfold Decimal.positional
  split
  · exact List.cons_ne_nil _ _
  · next positive =>
      apply List.append_ne_nil_of_left_ne_nil
      intro isNil
      rcases List.take_eq_nil_iff.mp isNil with zero | none
      · omega
      · exact nonempty none

theorem isWordChar_of_mem_decimal {n : Nat} {c : Char} (member : c ∈ Nat.toDigits 10 n) :
    isWordChar c = true := by
  have digit := Nat.isDigit_of_mem_toDigits (by decide) (Nat.le_refl 10) member
  simp [isWordChar, Char.isAlphanum, digit]

/-- A whole part with a sign in front and a fraction behind, if there is one. -/
theorem isWord_pointed (negative : Bool) {whole fraction : List Char} (written : whole ≠ [])
    (word : ∀ c, c ∈ whole ∨ c ∈ fraction → isWordChar c = true) :
    isWord (Decimal.signed negative
      (if fraction.isEmpty then whole else whole ++ '.' :: fraction)) = true := by
  apply isWord_of_chars
  · apply signed_ne_nil
    split
    · exact written
    · exact List.append_ne_nil_of_left_ne_nil written _
  · intro c member
    rcases mem_signed member with isSign | inText
    · rw [isSign]
      rfl
    · split at inText
      · exact word c (Or.inl inText)
      · rcases List.mem_append.mp inText with inWhole | behind
        · exact word c (Or.inl inWhole)
        · rcases List.mem_cons.mp behind with isPoint | inFraction
          · rw [isPoint]
            rfl
          · exact word c (Or.inr inFraction)

/-- A number is a word of digits with a sign and a point at most, or the name of
something that has no digits. -/
theorem isWord_decimal (x : Float) : isWord (Decimal.plain x) = true := by
  rw [Decimal.plain]
  cases Decimal.magnitude x with
  | nan =>
      have word : isWord "NaN" = true := by decide
      exact word
  | infinite =>
      have positive : isWord (Decimal.signed false "inf".toList) = true := by decide
      have negative : isWord (Decimal.signed true "inf".toList) = true := by decide
      cases Decimal.isNegative x with
      | true => exact negative
      | false => exact positive
  | finite mantissa exponent =>
      apply isWord_pointed (Decimal.isNegative x)
      · exact positional_ne_nil _ Nat.toDigits_ne_nil
      · intro c member
        rcases mem_positional member with isZero | digit
        · rw [isZero]
          rfl
        · exact isWordChar_of_mem_decimal digit

theorem isPlain_decimal (x : Float) : IsPlain (Decimal.plain x) :=
  isPlain_of_isWord (isWord_decimal x)

theorem isWord_nat (n : Nat) : isWord n.repr = true := by
  apply isWord_of_chars
  · rw [Nat.toList_repr]
    exact Nat.toDigits_ne_nil
  · intro c member
    rw [Nat.toList_repr] at member
    exact isWordChar_of_mem_decimal member

theorem isWord_append {first second : String} (one : isWord first = true)
    (other : isWord second = true) : isWord (first ++ second) = true := by
  rw [isWord, Bool.and_eq_true, Bool.not_eq_true', List.isEmpty_eq_false_iff,
    List.all_eq_true] at one other
  apply isWord_of_chars
  · rw [String.toList_append]
    exact List.append_ne_nil_of_left_ne_nil one.1 _
  · intro c member
    rw [String.toList_append] at member
    rcases List.mem_append.mp member with inFirst | inSecond
    · exact one.2 c inFirst
    · exact other.2 c inSecond

theorem isWord_int (n : Int) : isWord (toString n) = true := by
  rw [Int.toString_eq_repr, Int.repr_eq_if]
  split
  · exact isWord_nat n.toNat
  · exact isWord_append (by decide) (isWord_nat (-n).toNat)

theorem isPlain_int (n : Int) : IsPlain (toString n) :=
  isPlain_of_isWord (isWord_int n)

theorem isWord_pixels (x : Float) : isWord (pixels x) = true :=
  isWord_append (isWord_decimal (x + 0.0)) (by decide)

theorem isPlain_number (x : Float) : IsPlain (number x) :=
  isPlain_decimal (x + 0.0)

/-! ## Values with several parts -/

theorem isUnmarked_comma : isUnmarked ", ".toList = true := by decide

theorem isUnmarked_blank : isUnmarked " ".toList = true := by decide

theorem isPlain_close : IsPlain ")" := ⟨⟨by decide, by decide⟩, by decide⟩

theorem isPlain_pixels (x : Float) : IsPlain (pixels x) :=
  isPlain_of_isWord (isWord_pixels x)

theorem isPlain_color (c : Color) : IsPlain (color c) := by
  have lead : IsLead "rgba(" := ⟨by decide, by decide⟩
  have red := (lead.append (isPlain_int (channel c.red)).unmarked).append isUnmarked_comma
  have green := (red.append (isPlain_int (channel c.green)).unmarked).append isUnmarked_comma
  have blue := (green.append (isPlain_int (channel c.blue)).unmarked).append isUnmarked_comma
  exact (blue.append (isPlain_decimal _).unmarked).isPlain_append isPlain_close

theorem isPlain_solidColor {paint : Paint} {value : String}
    (solid : solidColor? paint = some value) : IsPlain value := by
  unfold solidColor? at solid
  split at solid
  · rcases Option.map_eq_some_iff.mp solid with ⟨c, -, written⟩
    rw [← written]
    exact isPlain_color c
  · cases solid

theorem isUnmarked_gradientStops (stops : List GradientStop) :
    isUnmarked (String.join (stops.map Gradient.renderStop)).toList = true := by
  have percent : isUnmarked "%".toList = true := by decide
  apply List.all_eq_true.mpr
  intro c member
  rw [String.toList_join] at member
  rcases List.mem_flatMap.mp member with ⟨text, inTexts, inText⟩
  rcases List.mem_map.mp inTexts with ⟨stop, -, written⟩
  rw [← written, Gradient.renderStop] at inText
  simp only [String.toList_append] at inText
  have color := isUnmarked_append
    (isUnmarked_append isUnmarked_comma (isPlain_color stop.color).unmarked) isUnmarked_blank
  have position := isUnmarked_append (isPlain_int stop.percent).unmarked percent
  rw [List.append_assoc] at inText
  exact List.all_eq_true.mp (isUnmarked_append color position) c inText

theorem isPlain_gradient (gradient : Gradient) : IsPlain gradient.render := by
  have lead : IsLead "linear-gradient(" := ⟨by decide, by decide⟩
  have degrees : isUnmarked "deg".toList = true := by decide
  have angle := (lead.append (isPlain_int gradient.angle).unmarked).append degrees
  exact (angle.append (isUnmarked_gradientStops gradient.stops)).isPlain_append isPlain_close

theorem isPlain_shadowColor (effect : Effect) :
    IsPlain ((effect.color.map color).getD transparent) := by
  cases effect.color with
  | none => exact ⟨⟨by decide, by decide⟩, by decide⟩
  | some c => exact isPlain_color c

/-- Lengths and a colour, whatever stands in front of them. -/
theorem isPlain_lengths {front : String} (lead : IsLead front) (effect : Effect) (y : Float) :
    IsPlain (front ++ " " ++ pixels y ++ " " ++ pixels effect.radius ++ " " ++
      pixels (effect.spread.getD 0.0) ++ " " ++ (effect.color.map color).getD transparent) := by
  have space := isUnmarked_blank
  have height := ((lead.append space).append (isPlain_pixels y).unmarked).append space
  have radius := (height.append (isPlain_pixels effect.radius).unmarked).append space
  have spread := (radius.append (isPlain_pixels (effect.spread.getD 0.0)).unmarked).append space
  exact spread.isPlain_append (isPlain_shadowColor effect)

theorem isPlain_shadow {effect : Effect} {value : String} (shown : shadow? effect = some value) :
    IsPlain value := by
  have inset : IsLead "inset " := ⟨by decide, by decide⟩
  unfold shadow? at shown
  cases kind : effect.kind with
  | dropShadow =>
      rw [kind] at shown
      rw [← Option.some.inj shown, String.empty_append]
      exact isPlain_lengths (isPlain_pixels _).toIsLead effect _
  | innerShadow =>
      rw [kind] at shown
      rw [← Option.some.inj shown]
      exact isPlain_lengths (inset.append (isPlain_pixels _).unmarked) effect _
  | layerBlur =>
      rw [kind] at shown
      cases shown
  | backgroundBlur =>
      rw [kind] at shown
      cases shown
  | other =>
      rw [kind] at shown
      cases shown

theorem isPlain_shadows {shadows : List String} (nonempty : shadows ≠ [])
    (plain : ∀ shadow ∈ shadows, IsPlain shadow) : IsPlain (", ".intercalate shadows) := by
  induction shadows with
  | nil => exact absurd rfl nonempty
  | cons shadow others inductionHypothesis =>
      cases others with
      | nil =>
          rw [String.intercalate_singleton]
          exact plain shadow List.mem_cons_self
      | cons second others =>
          have first := (plain shadow List.mem_cons_self).toIsLead.append isUnmarked_comma
          rw [String.intercalate_cons_cons]
          apply first.isPlain_append
          apply inductionHypothesis (List.cons_ne_nil _ _)
          intro other member
          exact plain other (List.mem_cons_of_mem shadow member)

end Style
end Artboard
