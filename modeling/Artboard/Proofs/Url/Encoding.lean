import Artboard.Proofs.Url.Form

/-!
# What is encoded comes back

A byte that is written behind a percent sign is read as that byte, whatever follows it.  So
a name or a value of a form is read as the text it was made of, and the characters that
keep names, values and pairs apart do not occur in it.  Of a text of which only some
characters are encoded, the others are left as they stand.
-/

namespace Artboard
namespace Url

/-! ## Bytes -/

theorem hexValue?_hexDigit {n : Nat} (small : n < 16) : Text.hexValue? (hexDigit n) = some n := by
  have digits : ∀ n < 16, Text.hexValue? (hexDigit n) = some n := by decide
  exact digits n small

theorem isAlphanum_hexDigit {n : Nat} (small : n < 16) : (hexDigit n).isAlphanum = true := by
  have digits : ∀ n < 16, (hexDigit n).isAlphanum = true := by decide
  exact digits n small

theorem percentDecode_percentByte (byte : UInt8) (rest : List Char) :
    percentDecode (percentByte byte ++ rest) = byte :: percentDecode rest := by
  have small := byte.toNat_lt
  have value : byte.toNat / 16 * 16 + byte.toNat % 16 = byte.toNat := by omega
  have written : percentByte byte ++ rest =
      '%' :: hexDigit (byte.toNat / 16) :: hexDigit (byte.toNat % 16) :: rest := rfl
  rw [written, percentDecode_escape (hexValue?_hexDigit (by omega)) (hexValue?_hexDigit (by omega)),
    value, UInt8.ofNat_toNat]

theorem percentDecode_percentBytes (bytes : List UInt8) (rest : List Char) :
    percentDecode (bytes.flatMap percentByte ++ rest) = bytes ++ percentDecode rest := by
  induction bytes with
  | nil => rfl
  | cons byte bytes inductionHypothesis =>
      rw [List.flatMap_cons, List.append_assoc, percentDecode_percentByte, inductionHypothesis]
      rfl

theorem percentDecode_cons {c : Char} (notPercent : c ≠ '%') (rest : List Char) :
    percentDecode (c :: rest) = String.utf8EncodeChar c ++ percentDecode rest := by
  apply percentDecode_plain
  unfold beginsEscape
  split
  · rename_i same
    exact absurd (List.cons.inj same).1 notPercent
  · rfl

theorem percentDecode_of_notMem {text : List Char} (absent : '%' ∉ text) :
    percentDecode text = Text.toBytes text := by
  induction text with
  | nil => rfl
  | cons c rest inductionHypothesis =>
      rcases List.ne_and_not_mem_of_not_mem_cons absent with ⟨different, absentLater⟩
      rw [percentDecode_cons different.symm, inductionHypothesis absentLater]
      rfl

theorem mem_percentByte {byte : UInt8} {c : Char} (member : c ∈ percentByte byte) :
    c = '%' ∨ c.isAlphanum = true := by
  have small := byte.toNat_lt
  rcases List.mem_cons.mp member with isPercent | member
  · exact Or.inl isPercent
  · right
    rcases List.mem_cons.mp member with isHigh | member
    · rw [isHigh]
      exact isAlphanum_hexDigit (by omega)
    · rw [List.mem_singleton.mp member]
      exact isAlphanum_hexDigit (by omega)

theorem mem_percentBytes {bytes : List UInt8} {c : Char}
    (member : c ∈ bytes.flatMap percentByte) : c = '%' ∨ c.isAlphanum = true := by
  rcases List.mem_flatMap.mp member with ⟨byte, -, inByte⟩
  exact mem_percentByte inByte

/-! ## Characters that are left as they stand -/

/-- What is not written for a byte stands in the text and is none of the characters that
are encoded. -/
theorem mem_percentEncode {set : Char → Bool} {text : List Char} {c : Char}
    (member : c ∈ percentEncode set text) :
    c = '%' ∨ c.isAlphanum = true ∨ c ∈ text ∧ set c = false := by
  rcases List.mem_flatMap.mp member with ⟨source, inText, written⟩
  split_ifs at written with encoded
  · rcases mem_percentBytes written with isPercent | isDigit
    · exact Or.inl isPercent
    · exact Or.inr (Or.inl isDigit)
  · rw [List.mem_singleton.mp written]
    exact Or.inr (Or.inr ⟨inText, Bool.eq_false_iff.mpr encoded⟩)

theorem percentEncode_of_forall {set : Char → Bool} {text : List Char}
    (plain : ∀ c ∈ text, set c = false) : percentEncode set text = text := by
  induction text with
  | nil => rfl
  | cons c rest inductionHypothesis =>
      rcases List.forall_mem_cons.mp plain with ⟨here, plainLater⟩
      have later := inductionHypothesis plainLater
      rw [percentEncode, List.flatMap_cons, here, if_neg Bool.false_ne_true]
      exact congrArg (c :: ·) later

/-! ## Names and values of a form -/

theorem ne_of_isFormPlain {c mark : Char} (plain : isFormPlain c = true)
    (isMark : isFormPlain mark = false) : c ≠ mark := by
  rintro rfl
  rw [plain] at isMark
  cases isMark

theorem isFormPlain_of_isAlphanum {c : Char} (alphanum : c.isAlphanum = true) :
    isFormPlain c = true := by
  rw [isFormPlain, alphanum, Bool.true_or]

theorem formEncode_cons (c : Char) (rest : List Char) :
    formEncode (c :: rest) = formEncode [c] ++ formEncode rest := by
  rw [formEncode, List.flatMap_cons, formEncode, List.flatMap_singleton, formEncode]

theorem withBlanks_append (first second : List Char) :
    withBlanks (first ++ second) = withBlanks first ++ withBlanks second :=
  List.map_append

theorem withBlanks_of_notMem {text : List Char} (absent : '+' ∉ text) : withBlanks text = text := by
  have same : ∀ c ∈ text, (if c = '+' then ' ' else c) = c := by
    intro c member
    apply if_neg
    rintro rfl
    exact absent member
  rw [withBlanks, List.map_congr_left same, List.map_id']

/-- One character of a form is read back, whatever follows it. -/
theorem percentDecode_formEncode_singleton (c : Char) (rest : List Char) :
    percentDecode (withBlanks (formEncode [c]) ++ rest) =
      String.utf8EncodeChar c ++ percentDecode rest := by
  rw [formEncode, List.flatMap_singleton]
  split_ifs with blank plain
  · rw [blank]
    exact percentDecode_cons (by decide) rest
  · have notPlus : '+' ∉ [c] := by
      rw [List.mem_singleton]
      exact (ne_of_isFormPlain plain (by decide)).symm
    rw [withBlanks_of_notMem notPlus]
    exact percentDecode_cons (ne_of_isFormPlain plain (by decide)) rest
  · have notPlus : '+' ∉ (String.utf8EncodeChar c).flatMap percentByte := by
      intro member
      rcases mem_percentBytes member with isPercent | isDigit
      · exact absurd isPercent (by decide)
      · exact absurd isDigit (by decide)
    rw [withBlanks_of_notMem notPlus, percentDecode_percentBytes]

theorem percentDecode_formEncode (text : List Char) :
    percentDecode (withBlanks (formEncode text)) = Text.toBytes text := by
  induction text with
  | nil => rfl
  | cons c rest inductionHypothesis =>
      rw [formEncode_cons, withBlanks_append, percentDecode_formEncode_singleton,
        inductionHypothesis]
      rfl

theorem formDecode_formEncode (text : List Char) : formDecode (formEncode text) = text := by
  rw [formDecode, percentDecode_formEncode, Text.ofBytes_toBytes]

theorem mem_formEncode {text : List Char} {c : Char} (member : c ∈ formEncode text) :
    c = '+' ∨ c = '%' ∨ isFormPlain c = true := by
  rcases List.mem_flatMap.mp member with ⟨source, -, written⟩
  split_ifs at written with blank plain
  · exact Or.inl (List.mem_singleton.mp written)
  · rw [List.mem_singleton.mp written]
    exact Or.inr (Or.inr plain)
  · rcases mem_percentBytes written with isPercent | isDigit
    · exact Or.inr (Or.inl isPercent)
    · exact Or.inr (Or.inr (isFormPlain_of_isAlphanum isDigit))

/-- Characters that have a meaning in a query are not left in a name or a value. -/
theorem notMem_formEncode {mark : Char} (notPlus : mark ≠ '+') (notPercent : mark ≠ '%')
    (notPlain : isFormPlain mark = false) (text : List Char) : mark ∉ formEncode text := by
  intro member
  rcases mem_formEncode member with isPlus | isPercent | plain
  · exact notPlus isPlus
  · exact notPercent isPercent
  · exact ne_of_isFormPlain plain notPlain rfl

/-! ## Pairs -/

theorem notMem_formPair {mark : Char} (notPlus : mark ≠ '+') (notPercent : mark ≠ '%')
    (notEquals : mark ≠ '=') (notPlain : isFormPlain mark = false) (name value : String) :
    mark ∉ formPair name value := by
  intro member
  rcases List.mem_append.mp member with inName | member
  · exact notMem_formEncode notPlus notPercent notPlain _ inName
  · rcases List.mem_cons.mp member with isEquals | inValue
    · exact notEquals isEquals
    · exact notMem_formEncode notPlus notPercent notPlain _ inValue

theorem formPair_ne_nil (name value : String) : formPair name value ≠ [] := by
  simp [formPair]

theorem pairOf_formPair (name value : String) : pairOf (formPair name value) = (name, value) := by
  have whole : '=' ∉ formEncode name.toList :=
    notMem_formEncode (by decide) (by decide) (by decide) _
  rw [formPair, pairOf_append whole, formDecode_formEncode, formDecode_formEncode,
    String.ofList_toList, String.ofList_toList]

theorem formPairs_formPair (name value : String) :
    formPairs (formPair name value) = [(name, value)] := by
  have whole : '&' ∉ formPair name value :=
    notMem_formPair (by decide) (by decide) (by decide) (by decide) name value
  rw [formPairs_of_notMem whole (formPair_ne_nil name value), pairOf_formPair]

end Url
end Artboard
