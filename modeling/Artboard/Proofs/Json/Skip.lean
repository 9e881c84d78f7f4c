import Artboard.Proofs.Json.Meaning

/-!
# Passing over values

Every JSON value is passed over to its end, whatever it nests and however large its
numbers are.  The scan keeps the open brackets on a stack and spends one step on a value,
a comma or a closing bracket.  The invariant of the scan is that it never spends more
steps on a part of the text than the part has characters.
-/

namespace Artboard
namespace Json

/-! ## Brackets -/

theorem attempt_skipKey (before behind : Gap) (key : List Piece) (rest : List Char) :
    attempt skipKey
        (before.chars ++ (renderQuoted key ++ (behind.chars ++ ':' :: rest))) =
      some ((), rest) := by
  have skipped := attempt_skipQuotedText key (behind.chars ++ ':' :: rest)
  have quote : (renderQuoted key ++ (behind.chars ++ ':' :: rest)).dropWhile isGap =
      renderQuoted key ++ (behind.chars ++ ':' :: rest) := by
    simp [renderQuoted, isGap]
  simp only [skipKey, attempt_bind, attempt_peekToken, dropWhile_gap, quote, Option.bind_some,
    show (renderQuoted key ++ (behind.chars ++ ':' :: rest)).head? = some '"' from rfl, skipped]
  simp [isGap]

theorem attempt_openBracket_noItem (blank : Gap) (rest : List Char) :
    attempt (openBracket .list) ('[' :: (blank.chars ++ ']' :: rest)) = some (false, rest) := by
  simp [openBracket, Bracket.closer, isGap]

theorem attempt_openBracket_item (blank before : Gap) (value : Source) (rest : List Char) :
    attempt (openBracket .list) ('[' :: (blank.chars ++ (before.chars ++ (value.render ++ rest)))) =
      some (true, value.render ++ rest) := by
  obtain ⟨c, text, parts, notGap, notComma, notCloser, -⟩ := value.exists_lead
  simp [openBracket, Bracket.closer, skipLead, parts, notGap, notCloser]

theorem attempt_openBracket_noMember (blank : Gap) (rest : List Char) :
    attempt (openBracket .object) ('\x7b' :: (blank.chars ++ '\x7d' :: rest)) =
      some (false, rest) := by
  simp [openBracket, Bracket.closer, isGap]

theorem attempt_openBracket_member (blank before behind : Gap) (key : List Piece)
    (rest : List Char) :
    attempt (openBracket .object)
        ('\x7b' :: (blank.chars ++ (before.chars ++ (renderQuoted key ++
          (behind.chars ++ ':' :: rest))))) =
      some (true, rest) := by
  have skipped := attempt_skipKey noGap behind key rest
  simp only [renderQuoted] at skipped ⊢
  simp [openBracket, Bracket.closer, skipLead, isGap] at skipped ⊢
  simp [skipped]

/-! ## Scanning -/

/-- A scan over a part of a text goes on behind the part, and the part had a character for
every step that was spent on it. -/
def PassesTo (scan : Reader Unit) (fuel : List Char) (brackets : List Bracket)
    (gap : Gap) (part rest : List Char) : Prop :=
  ∃ left : List Char, fuel.length ≤ left.length + part.length ∧
    attempt scan (gap.chars ++ (part ++ rest)) = attempt (skipNextWithin left brackets) rest

theorem passesTo_closer {bracket : Bracket} {fuel : List Char} (brackets : List Bracket)
    (gap : Gap) (rest : List Char) (enough : 1 ≤ fuel.length) :
    PassesTo (skipNextWithin fuel (bracket :: brackets)) fuel brackets gap [bracket.closer]
      rest := by
  cases fuel with
  | nil => cases enough
  | cons c fuel =>
      refine ⟨fuel, by simp, ?_⟩
      cases bracket <;> simp [skipNextWithin, Bracket.closer, isGap]

mutual

theorem passesTo_value (source : Source) (fuel : List Char) (brackets : List Bracket)
    (gap : Gap) (rest : List Char) (delimits : Delimits rest)
    (enough : source.render.length ≤ fuel.length) :
    PassesTo (skipValueWithin fuel brackets) fuel brackets gap source.render rest := by
  have long := length_render_pos source
  cases fuel with
  | nil => exact absurd (Nat.lt_of_lt_of_le long enough) (Nat.lt_irrefl 0)
  | cons c fuel =>
      -- A scalar, and a bracket with nothing inside, takes one step.
      have spent : (c :: fuel).length ≤ fuel.length + source.render.length := by
        rw [List.length_cons]
        omega
      rw [PassesTo, skipValueWithin, attempt_peekToken_bind]
      match source with
      | .null => exact ⟨fuel, spent, by simp⟩
      | .bool true => exact ⟨fuel, spent, by simp⟩
      | .bool false => exact ⟨fuel, spent, by simp⟩
      | .number written =>
          obtain ⟨d, text, parts, leads, notLetter⟩ := exists_lead_number written
          have skipped := attempt_skipNumber written delimits.endsNumber
          refine ⟨fuel, spent, ?_⟩
          rw [Source.render_number]
          rw [parts, List.cons_append] at skipped ⊢
          simp [notLetter, leads, skipped]
      | .text pieces =>
          have skipped := attempt_skipQuotedText pieces rest
          refine ⟨fuel, spent, ?_⟩
          rw [Source.render_text, show (renderQuoted pieces).head? = some '"' from rfl]
          simp [skipped]
      | .list blank [] =>
          refine ⟨fuel, spent, ?_⟩
          simp [Source.renderItems, attempt_openBracket_noItem]
      | .list blank ((frame, value) :: items) =>
          have length : (Source.list blank ((frame, value) :: items)).render.length =
              1 + blank.chars.length + frame.before.chars.length + value.render.length +
                frame.after.chars.length + (Source.renderItems false items).length := by
            simp only [Source.render_list, List.length_cons, List.length_append,
              length_renderItems_cons, separator_true, List.length_nil]
            omega
          rw [length] at enough
          rw [List.length_cons] at enough
          obtain ⟨middle, before, here⟩ := passesTo_value value fuel (.list :: brackets) noGap
            (frame.after.chars ++ (Source.renderItems false items ++ rest))
            (frame.after.delimits (Source.delimits_renderItems items rest)) (by omega)
          obtain ⟨left, behind, further⟩ := passesTo_items items middle brackets frame.after rest
            (by omega)
          refine ⟨left, ?_, ?_⟩
          · rw [length, List.length_cons]
            omega
          · rw [chars_noGap, List.nil_append] at here
            simp [Source.renderItems, attempt_openBracket_item, here, further]
      | .object blank [] =>
          refine ⟨fuel, spent, ?_⟩
          simp [Source.renderMembers, attempt_openBracket_noMember]
      | .object blank ((label, value) :: members) =>
          have length : label.frame.before.chars.length + value.render.length +
              label.frame.after.chars.length + (Source.renderMembers false members).length <
                (Source.object blank ((label, value) :: members)).render.length := by
            simp only [Source.render_object, List.length_cons, List.length_append,
              length_renderMembers_cons]
            omega
          rw [List.length_cons] at enough
          obtain ⟨middle, before, here⟩ := passesTo_value value fuel (.object :: brackets)
            label.frame.before
            (label.frame.after.chars ++ (Source.renderMembers false members ++ rest))
            (label.frame.after.delimits (Source.delimits_renderMembers members rest)) (by omega)
          obtain ⟨left, behind, further⟩ := passesTo_members members middle brackets
            label.frame.after rest (by omega)
          refine ⟨left, ?_, ?_⟩
          · rw [List.length_cons]
            omega
          · simp [Source.renderMembers, attempt_openBracket_member, here, further]

theorem passesTo_items (items : List (Frame × Source)) (fuel : List Char)
    (brackets : List Bracket) (gap : Gap) (rest : List Char)
    (enough : (Source.renderItems false items).length ≤ fuel.length) :
    PassesTo (skipNextWithin fuel (.list :: brackets)) fuel brackets gap
      (Source.renderItems false items) rest := by
  match items with
  | [] => exact passesTo_closer brackets gap rest enough
  | (frame, value) :: items =>
      have length := length_renderItems_cons false frame value items
      rw [separator_false, List.length_singleton] at length
      cases fuel with
      | nil =>
          rw [length, List.length_nil] at enough
          omega
      | cons c fuel =>
          rw [length, List.length_cons] at enough
          obtain ⟨middle, before, here⟩ := passesTo_value value fuel (.list :: brackets)
            frame.before (frame.after.chars ++ (Source.renderItems false items ++ rest))
            (frame.after.delimits (Source.delimits_renderItems items rest)) (by omega)
          obtain ⟨left, behind, further⟩ := passesTo_items items middle brackets frame.after rest
            (by omega)
          refine ⟨left, ?_, ?_⟩
          · rw [length, List.length_cons]
            omega
          · simp [Source.renderItems, skipNextWithin, Bracket.closer, skipLead, isGap, here,
              further]

theorem passesTo_members (members : List (Label × Source)) (fuel : List Char)
    (brackets : List Bracket) (gap : Gap) (rest : List Char)
    (enough : (Source.renderMembers false members).length ≤ fuel.length) :
    PassesTo (skipNextWithin fuel (.object :: brackets)) fuel brackets gap
      (Source.renderMembers false members) rest := by
  match members with
  | [] => exact passesTo_closer brackets gap rest enough
  | (label, value) :: members =>
      have length := length_renderMembers_cons false label value members
      rw [separator_false, List.length_singleton] at length
      cases fuel with
      | nil =>
          rw [length, List.length_nil] at enough
          omega
      | cons c fuel =>
          rw [length, List.length_cons] at enough
          obtain ⟨middle, before, here⟩ := passesTo_value value fuel (.object :: brackets)
            label.frame.before
            (label.frame.after.chars ++ (Source.renderMembers false members ++ rest))
            (label.frame.after.delimits (Source.delimits_renderMembers members rest)) (by omega)
          obtain ⟨left, behind, further⟩ := passesTo_members members middle brackets
            label.frame.after rest (by omega)
          refine ⟨left, ?_, ?_⟩
          · rw [length, List.length_cons]
            omega
          · simp [Source.renderMembers, skipNextWithin, Bracket.closer, skipLead, isGap,
              attempt_skipKey, here, further]

end

/-- Every JSON value is passed over to its end. -/
theorem attempt_skipValue (source : Source) (gap : Gap) (rest : List Char)
    (delimits : Delimits rest) :
    attempt skipValue (gap.chars ++ (source.render ++ rest)) = some ((), rest) := by
  obtain ⟨left, -, passed⟩ := passesTo_value source
    (' ' :: (gap.chars ++ (source.render ++ rest))) [] gap rest delimits
    (by simp only [List.length_cons, List.length_append]; omega)
  rw [skipValue, attempt_bind, attempt_get, Option.bind_some, passed]
  cases left <;> rfl

end Json
end Artboard
