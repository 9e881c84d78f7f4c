import Artboard.Text.Search

/-!
# Occurrences of a pattern

The search stops at the first occurrence of a pattern.  Where that is can be said
for a text that goes on: in front of a text that no occurrence begins in, inside a
text that has an occurrence, and behind a text that has none.
-/

namespace Artboard
namespace Text

/-- Whether two texts have different characters at a position that both have. -/
def differs : List Char → List Char → Bool
  | p :: pattern, c :: text => p != c || differs pattern text
  | _, _ => false

/-- Whether no occurrence of a pattern begins in a text, however the text goes on. -/
def passes (pattern : List Char) : List Char → Bool
  | [] => true
  | c :: text => differs pattern (c :: text) && passes pattern text

variable {pattern : List Char}

/-! ## Texts that a pattern passes -/

theorem differs_append : {pattern text : List Char} → (rest : List Char) →
    differs pattern text = true → differs pattern (text ++ rest) = true
  | [], _, _, different => by
      cases different
  | _ :: _, [], _, different => by
      cases different
  | p :: pattern, c :: text, rest, different => by
      rcases Bool.or_eq_true_iff.mp different with here | later
      · exact Bool.or_eq_true_iff.mpr (Or.inl here)
      · exact Bool.or_eq_true_iff.mpr (Or.inr (differs_append rest later))

theorem isPrefixOf_of_differs : {pattern text : List Char} →
    differs pattern text = true → pattern.isPrefixOf text = false
  | [], _, different => by
      cases different
  | _ :: _, [], different => by
      cases different
  | p :: pattern, c :: text, different => by
      rcases Bool.or_eq_true_iff.mp different with here | later
      · simp [List.isPrefixOf, bne_iff_ne.mp here]
      · simp [List.isPrefixOf, isPrefixOf_of_differs later]

theorem passes_append {first second : List Char} (passesFirst : passes pattern first = true)
    (passesSecond : passes pattern second = true) : passes pattern (first ++ second) = true := by
  induction first with
  | nil => exact passesSecond
  | cons c rest inductionHypothesis =>
      rcases Bool.and_eq_true_iff.mp passesFirst with ⟨different, passesRest⟩
      apply Bool.and_eq_true_iff.mpr
      constructor
      · exact differs_append second different
      · exact inductionHypothesis passesRest

theorem isPrefixOf_append_of_passes {text : List Char} (any : text ≠ [])
    (passesText : passes pattern text = true) (rest : List Char) :
    pattern.isPrefixOf (text ++ rest) = false := by
  cases text with
  | nil => exact absurd rfl any
  | cons c text =>
      have different := (Bool.and_eq_true_iff.mp passesText).1
      exact isPrefixOf_of_differs (differs_append rest different)

theorem passes_toList_append {first second : String} (passesFirst : passes pattern first.toList = true)
    (passesSecond : passes pattern second.toList = true) :
    passes pattern (first ++ second).toList = true := by
  rw [String.toList_append]
  exact passes_append passesFirst passesSecond

theorem passes_flatten {texts : List (List Char)}
    (all : ∀ text ∈ texts, passes pattern text = true) : passes pattern texts.flatten = true := by
  induction texts with
  | nil => rfl
  | cons text texts inductionHypothesis =>
      rw [List.flatten_cons]
      apply passes_append (all text List.mem_cons_self)
      apply inductionHypothesis
      intro other member
      exact all other (List.mem_cons_of_mem text member)

/-- A pattern passes a text that does not have its first character. -/
theorem passes_of_notMem {mark : Char} {letters text : List Char} (absent : mark ∉ text) :
    passes (mark :: letters) text = true := by
  induction text with
  | nil => rfl
  | cons c rest inductionHypothesis =>
      rcases List.ne_and_not_mem_of_not_mem_cons absent with ⟨different, absentLater⟩
      apply Bool.and_eq_true_iff.mpr
      constructor
      · exact Bool.or_eq_true_iff.mpr (Or.inl (bne_iff_ne.mpr different))
      · exact inductionHypothesis absentLater

theorem not_infix_of_passes {text : List Char} (inPattern : pattern ≠ [])
    (passesText : passes pattern text = true) : ¬pattern <:+: text := by
  induction text with
  | nil => exact fun found => inPattern (List.eq_nil_of_infix_nil found)
  | cons c rest inductionHypothesis =>
      rcases Bool.and_eq_true_iff.mp passesText with ⟨different, passesRest⟩
      intro found
      rcases List.infix_cons_iff.mp found with here | later
      · have notHere := isPrefixOf_of_differs different
        rw [List.isPrefixOf_iff_prefix.mpr here] at notHere
        cases notHere
      · exact inductionHypothesis passesRest later

/-! ## Where the search stops -/

/-- The search goes on behind a text that the pattern passes. -/
theorem after?_append_of_passes {text : List Char} (passesText : passes pattern text = true)
    (rest : List Char) :
    after? pattern (text ++ rest) =
      (after? pattern rest).map fun found => (found.1 + text.length, found.2) := by
  induction text with
  | nil => simp
  | cons c text inductionHypothesis =>
      rcases Bool.and_eq_true_iff.mp passesText with ⟨different, passesLater⟩
      have notHere := isPrefixOf_of_differs (differs_append rest different)
      rw [List.cons_append] at notHere ⊢
      rw [after?, if_neg (Bool.not_eq_true _ ▸ notHere), inductionHypothesis passesLater,
        Option.map_map]
      rfl

theorem after?_self (mark : Char) (letters rest : List Char) :
    after? (mark :: letters) (mark :: letters ++ rest) = some (0, rest) := by
  have here : (mark :: letters).isPrefixOf (mark :: letters ++ rest) = true :=
    List.isPrefixOf_iff_prefix.mpr (List.prefix_append _ _)
  rw [List.cons_append] at here ⊢
  rw [after?, if_pos here, ← List.cons_append, List.drop_left]

/-- A pattern that does not repeat its first character has no occurrence that begins in
one text and ends in an occurrence behind it. -/
theorem prefix_of_prefix_append_self {mark : Char} {letters : List Char} (once : mark ∉ letters)
    {text rest : List Char} (inText : text ≠ [])
    (begins : mark :: letters <+: text ++ (mark :: letters ++ rest)) :
    mark :: letters <+: text := by
  rcases List.prefix_or_prefix_of_prefix begins (List.prefix_append text _) with inside | across
  · exact inside
  · -- Two overlapping occurrences: the first character of the later one is one of the
    -- letters of the earlier one.
    rcases across with ⟨more, split⟩
    cases more with
    | nil =>
        rw [List.append_nil] at split
        exact split ▸ List.prefix_refl text
    | cons m more =>
        rw [← split, List.prefix_append_right_inj, split, List.cons_append,
          List.cons_prefix_cons] at begins
        rcases List.exists_cons_of_ne_nil inText with ⟨c, others, written⟩
        rw [written, List.cons_append, List.cons.injEq] at split
        apply absurd _ once
        rw [← split.2, ← begins.1]
        exact List.mem_append_right others List.mem_cons_self

/-- A pattern that does not repeat its first character and has no occurrence in a text is
first found behind the text. -/
theorem after?_append_of_not_infix {mark : Char} {letters : List Char} (once : mark ∉ letters)
    {text : List Char} (absent : ¬mark :: letters <:+: text) (rest : List Char) :
    after? (mark :: letters) (text ++ (mark :: letters ++ rest)) = some (text.length, rest) := by
  induction text with
  | nil => exact after?_self mark letters rest
  | cons c text inductionHypothesis =>
      have absentLater : ¬mark :: letters <:+: text :=
        fun later => absent (List.infix_cons later)
      have notHere : ¬(mark :: letters).isPrefixOf
          (c :: (text ++ (mark :: letters ++ rest))) = true := by
        intro here
        have begins := prefix_of_prefix_append_self once (List.cons_ne_nil c text)
          (List.isPrefixOf_iff_prefix.mp here)
        exact absent begins.isInfix
      rw [List.cons_append, after?, if_neg notHere, inductionHypothesis absentLater]
      rfl

theorem after?_append_of_infix {text : List Char} (present : pattern <:+: text)
    (rest : List Char) :
    ∃ before behind, text = before ++ pattern ++ behind ∧
      after? pattern (text ++ rest) = some (before.length, behind ++ rest) := by
  induction text with
  | nil =>
      have empty := List.eq_nil_of_infix_nil present
      subst empty
      refine ⟨[], [], rfl, ?_⟩
      cases rest <;> rfl
  | cons c text inductionHypothesis =>
      by_cases here : pattern <+: c :: text
      · have longer : pattern.isPrefixOf (c :: text ++ rest) = true :=
          List.isPrefixOf_iff_prefix.mpr (here.trans (List.prefix_append _ _))
        rcases here with ⟨behind, split⟩
        refine ⟨[], behind, split.symm, ?_⟩
        rw [List.cons_append] at longer ⊢
        rw [after?, if_pos longer, ← List.cons_append, ← split, List.append_assoc, List.drop_left]
        rfl
      · have later := (List.infix_cons_iff.mp present).resolve_left here
        have notHere : ¬pattern.isPrefixOf (c :: (text ++ rest)) = true := by
          intro begins
          have bound := later.length_le
          apply here
          exact List.prefix_of_prefix_length_le (List.isPrefixOf_iff_prefix.mp begins)
            (List.prefix_append (c :: text) rest) (Nat.le_succ_of_le bound)
        rcases inductionHypothesis later with ⟨before, behind, split, found⟩
        refine ⟨c :: before, behind, by rw [split]; rfl, ?_⟩
        rw [List.cons_append, after?, if_neg notHere, found]
        rfl

/-! ## Whether there is an occurrence -/

theorem contains_cons (pattern : List Char) (c : Char) (rest : List Char) :
    contains pattern (c :: rest) = (pattern.isPrefixOf (c :: rest) || contains pattern rest) := by
  rw [contains, after?]
  split
  · next here => rw [here, Bool.true_or, Option.isSome_some]
  · next notHere =>
      rw [Bool.eq_false_iff.mpr notHere, Bool.false_or, Option.isSome_map, contains]

theorem contains_append_of_passes {text : List Char} (passesText : passes pattern text = true)
    (rest : List Char) : contains pattern (text ++ rest) = contains pattern rest := by
  rw [contains, after?_append_of_passes passesText, Option.isSome_map, contains]

theorem contains_iff_infix {text : List Char} :
    contains pattern text = true ↔ pattern <:+: text := by
  induction text with
  | nil =>
      cases pattern with
      | nil => simp [contains, after?]
      | cons mark letters => simp [contains, after?]
  | cons c rest inductionHypothesis =>
      rw [contains_cons, Bool.or_eq_true, List.isPrefixOf_iff_prefix, inductionHypothesis,
        List.infix_cons_iff]

end Text
end Artboard
