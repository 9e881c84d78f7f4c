import Artboard.Proofs.Text.Occurrence
import Artboard.Proofs.Text.Pieces

/-!
# Pieces between occurrences of a text

A text is split at another one by searching it again and again, each time behind the
occurrence found before.  Joining pieces with a separator and splitting at it gives the
pieces back if the first character of the separator is nowhere else.
-/

namespace Artboard
namespace Text

variable {mark : Char} {letters : List Char}

theorem length_lt_of_after? {text rest : List Char} {before : Nat}
    (found : after? (mark :: letters) text = some (before, rest)) : rest.length < text.length := by
  induction text generalizing before with
  | nil => cases found
  | cons c text inductionHypothesis =>
      rw [after?] at found
      split at found
      · cases found
        rw [List.length_cons, List.drop_succ_cons, List.length_cons, List.length_drop]
        omega
      · rcases Option.map_eq_some_iff.mp found with ⟨⟨count, behind⟩, later, same⟩
        cases same
        exact Nat.lt_succ_of_lt (inductionHypothesis later)

/-- The pieces of a text between the occurrences of a separator, which is not empty; there is
one piece more than there are occurrences. -/
def splitAtText (mark : Char) (letters text : List Char) : List (List Char) :=
  match _ : after? (mark :: letters) text with
  | none => [text]
  | some (before, rest) => text.take before :: splitAtText mark letters rest
termination_by text.length
decreasing_by exact length_lt_of_after? ‹_›

theorem splitAtText_of_after?_eq_none {text : List Char}
    (absent : after? (mark :: letters) text = none) :
    splitAtText mark letters text = [text] := by
  rw [splitAtText]
  split
  · rfl
  · next found => rw [absent] at found; cases found

theorem splitAtText_of_after?_eq_some {text rest : List Char} {before : Nat}
    (found : after? (mark :: letters) text = some (before, rest)) :
    splitAtText mark letters text = text.take before :: splitAtText mark letters rest := by
  rw [splitAtText]
  split
  · next absent => rw [absent] at found; cases found
  · next other => rw [found] at other; cases other; rfl

theorem after?_eq_none_of_notMem {text : List Char} (absent : mark ∉ text) :
    after? (mark :: letters) text = none := by
  have passesText : passes (mark :: letters) text = true := passes_of_notMem absent
  have search := after?_append_of_passes passesText []
  rwa [List.append_nil] at search

/-- Texts without the first character of the separator are the pieces of what they are
joined to. -/
theorem splitAtText_join (once : mark ∉ letters) {pieces : List (List Char)} (any : pieces ≠ [])
    (absent : ∀ piece ∈ pieces, mark ∉ piece) :
    splitAtText mark letters (join (mark :: letters) pieces) = pieces := by
  induction pieces with
  | nil => exact absurd rfl any
  | cons piece others inductionHypothesis =>
      have absentFirst := absent piece List.mem_cons_self
      cases others with
      | nil => exact splitAtText_of_after?_eq_none (after?_eq_none_of_notMem absentFirst)
      | cons next others =>
          have notInside : ¬mark :: letters <:+: piece := fun inside =>
            absentFirst (inside.subset List.mem_cons_self)
          have found := after?_append_of_not_infix once notInside
            (join (mark :: letters) (next :: others))
          have later := inductionHypothesis (List.cons_ne_nil next others) fun other member =>
            absent other (List.mem_cons_of_mem piece member)
          rw [join_cons_cons, List.append_assoc, splitAtText_of_after?_eq_some found, later,
            List.take_left]

end Text
end Artboard
