import Mathlib.Data.List.Basic

/-!
# Pieces outside of parentheses

A list may have parts in parentheses, inside of which its separator means something else.
Splitting the list outside of parentheses goes through the text with the number of
parentheses that are open.  A text is whole if none of its separators divides it and all
its parentheses are closed.  What is put together from whole texts with separators in
between comes apart into the same texts.
-/

namespace Artboard
namespace Text

/-- How many parentheses are open behind a character. -/
def depthBehind (depth : Nat) (c : Char) : Nat :=
  if c = '(' then depth + 1 else if c = ')' then depth - 1 else depth

/-- The pieces of a text between the separators outside of parentheses. -/
def splitOutside (separator : Char) : Nat → List Char → List (List Char)
  | _, [] => [[]]
  | depth, c :: rest =>
    if depth = 0 ∧ c = separator then [] :: splitOutside separator 0 rest
    else (splitOutside separator (depthBehind depth c) rest).modifyHead (c :: ·)

/-- How many parentheses are open behind a text, unless a separator divides it. -/
def within? (separator : Char) : Nat → List Char → Option Nat
  | depth, [] => some depth
  | depth, c :: rest =>
    if depth = 0 ∧ c = separator then none else within? separator (depthBehind depth c) rest

variable {separator : Char}

/-! ## One text behind the other -/

theorem within?_append (depth : Nat) (first second : List Char) :
    within? separator depth (first ++ second) =
      (within? separator depth first).bind fun behind => within? separator behind second := by
  induction first generalizing depth with
  | nil => rfl
  | cons c rest inductionHypothesis =>
      rw [List.cons_append, within?, within?]
      split
      · rfl
      · exact inductionHypothesis (depthBehind depth c)

/-- What no separator divides belongs to the first piece. -/
theorem splitOutside_append {depth behind : Nat} {text : List Char}
    (undivided : within? separator depth text = some behind) (rest : List Char) :
    splitOutside separator depth (text ++ rest) =
      (splitOutside separator behind rest).modifyHead (text ++ ·) := by
  induction text generalizing depth with
  | nil =>
      rw [within?, Option.some.injEq] at undivided
      rw [undivided]
      exact (congrFun List.modifyHead_id _).symm
  | cons c text inductionHypothesis =>
      rw [within?] at undivided
      split at undivided
      · cases undivided
      · next inside =>
          rw [List.cons_append, splitOutside, if_neg inside, inductionHypothesis undivided,
            List.modifyHead_modifyHead]
          rfl

/-! ## Whole texts -/

/-- No separator divides the text, and its parentheses are closed. -/
def IsWhole (separator : Char) (text : List Char) : Prop :=
  within? separator 0 text = some 0

instance (separator : Char) (text : List Char) : Decidable (IsWhole separator text) :=
  inferInstanceAs (Decidable (within? separator 0 text = some 0))

theorem IsWhole.append {first second : List Char} (one : IsWhole separator first)
    (other : IsWhole separator second) : IsWhole separator (first ++ second) := by
  rw [IsWhole, within?_append, one]
  exact other

/-- A text without parentheses changes nothing where separators do not count. -/
theorem within?_of_flat {depth : Nat} {text : List Char}
    (flat : ∀ c ∈ text, c ≠ '(' ∧ c ≠ ')') (undivided : 0 < depth ∨ separator ∉ text) :
    within? separator depth text = some depth := by
  induction text with
  | nil => rfl
  | cons c rest inductionHypothesis =>
      rw [List.forall_mem_cons] at flat
      have same : depthBehind depth c = depth := by
        rw [depthBehind, if_neg flat.1.1, if_neg flat.1.2]
      have inside : ¬(depth = 0 ∧ c = separator) := by
        rintro ⟨noDepth, isSeparator⟩
        rcases undivided with deep | absent
        · exact Nat.ne_of_gt deep noDepth
        · exact absent (isSeparator ▸ List.mem_cons_self)
      rw [within?, if_neg inside, same]
      apply inductionHypothesis flat.2
      exact undivided.imp_right fun absent later => absent (List.mem_cons_of_mem c later)

theorem isWhole_of_flat {text : List Char} (flat : ∀ c ∈ text, c ≠ '(' ∧ c ≠ ')')
    (absent : separator ∉ text) : IsWhole separator text :=
  within?_of_flat flat (Or.inr absent)

/-- A name with something in parentheses behind it, where separators do not count. -/
theorem isWhole_call {name inside : List Char} (named : ∀ c ∈ name, c ≠ '(' ∧ c ≠ ')')
    (absent : separator ∉ name) (flat : ∀ c ∈ inside, c ≠ '(' ∧ c ≠ ')')
    (isSeparator : separator ≠ '(') : IsWhole separator (name ++ '(' :: inside ++ [')']) := by
  have opens : within? separator 0 (name ++ ['(']) = some 1 := by
    rw [within?_append, within?_of_flat named (Or.inr absent), Option.bind_some, within?,
      if_neg fun opening => isSeparator opening.2.symm]
    rfl
  have closes : within? separator 1 [')'] = some 0 := rfl
  rw [IsWhole, List.append_cons name, within?_append, within?_append, opens, Option.bind_some,
    within?_of_flat flat (Or.inl Nat.one_pos), Option.bind_some, closes]

/-! ## Splitting what is put together -/

theorem splitOutside_of_isWhole {text : List Char} (whole : IsWhole separator text) :
    splitOutside separator 0 text = [text] := by
  have pieces := splitOutside_append whole []
  rw [List.append_nil] at pieces
  rw [pieces, splitOutside, List.modifyHead_cons, List.append_nil]

theorem splitOutside_isWhole_append {text : List Char} (whole : IsWhole separator text)
    (rest : List Char) :
    splitOutside separator 0 (text ++ separator :: rest) =
      text :: splitOutside separator 0 rest := by
  have divides : splitOutside separator 0 (separator :: rest) =
      [] :: splitOutside separator 0 rest := if_pos ⟨rfl, rfl⟩
  rw [splitOutside_append whole, divides, List.modifyHead_cons, List.append_nil]

/-- Whole texts that each follow a separator are the pieces behind what comes first. -/
theorem splitOutside_append_flatMap {first : List Char} (whole : IsWhole separator first)
    {texts : List (List Char)} (wholes : ∀ text ∈ texts, IsWhole separator text) :
    splitOutside separator 0 (first ++ texts.flatMap fun text => separator :: text) =
      first :: texts := by
  induction texts generalizing first with
  | nil =>
      rw [List.flatMap_nil, List.append_nil]
      exact splitOutside_of_isWhole whole
  | cons text texts inductionHypothesis =>
      rw [List.forall_mem_cons] at wholes
      rw [List.flatMap_cons, List.cons_append, splitOutside_isWhole_append whole,
        inductionHypothesis wholes.1 wholes.2]

theorem intercalate_cons (between first : List Char) (others : List (List Char)) :
    between.intercalate (first :: others) = first ++ others.flatMap fun text => between ++ text := by
  induction others generalizing first with
  | nil => rw [List.intercalate_singleton, List.flatMap_nil, List.append_nil]
  | cons second others inductionHypothesis =>
      rw [List.intercalate_cons_cons, inductionHypothesis, List.flatMap_cons, List.append_assoc,
        List.append_assoc]

/-- What is put together has the characters of its parts and those in between. -/
theorem mem_intercalate {between : List Char} {texts : List (List Char)} {c : Char}
    (member : c ∈ between.intercalate texts) : c ∈ between ∨ ∃ text ∈ texts, c ∈ text := by
  cases texts with
  | nil => exact absurd member List.not_mem_nil
  | cons first others =>
      rw [intercalate_cons, List.mem_append, List.mem_flatMap] at member
      rcases member with inFirst | ⟨text, inOthers, inText⟩
      · exact Or.inr ⟨first, List.mem_cons_self, inFirst⟩
      · rcases List.mem_append.mp inText with inBetween | behind
        · exact Or.inl inBetween
        · exact Or.inr ⟨text, List.mem_cons_of_mem first inOthers, behind⟩

theorem isWhole_intercalate {between : List Char} {texts : List (List Char)}
    (gap : IsWhole separator between) (wholes : ∀ text ∈ texts, IsWhole separator text) :
    IsWhole separator (between.intercalate texts) := by
  induction texts with
  | nil => rfl
  | cons first others inductionHypothesis =>
      rw [List.forall_mem_cons] at wholes
      cases others with
      | nil =>
          rw [List.intercalate_singleton]
          exact wholes.1
      | cons second others =>
          rw [List.intercalate_cons_cons]
          exact (wholes.1.append gap).append (inductionHypothesis wholes.2)

/-- Whole texts that are written with a separator in between, and with something whole
behind it, are the pieces up to what stands behind the separators. -/
theorem splitOutside_intercalate {behind first : List Char} {others : List (List Char)}
    (gap : IsWhole separator behind) (whole : IsWhole separator first)
    (wholes : ∀ text ∈ others, IsWhole separator text) :
    splitOutside separator 0 ((separator :: behind).intercalate (first :: others)) =
      first :: others.map fun text => behind ++ text := by
  have moved : ∀ text ∈ others.map fun text => behind ++ text, IsWhole separator text := by
    intro text member
    rcases List.mem_map.mp member with ⟨other, inOthers, same⟩
    rw [← same]
    exact gap.append (wholes other inOthers)
  rw [intercalate_cons, ← splitOutside_append_flatMap whole moved, List.flatMap_map]
  rfl

end Text
end Artboard
