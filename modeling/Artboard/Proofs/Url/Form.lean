import Artboard.Proofs.Text.Pieces
import Artboard.Proofs.Text.Utf8
import Artboard.Url.Percent

/-!
# Reading a query

The query of an address stands between the first question mark and the number sign.  It is
a list of pieces with ampersands in between, and a piece is a name and a value with an
equals sign in between, both with plus signs for blanks and percent signs in front of
bytes.

Reading a value never makes it longer, and it makes it shorter as soon as a byte is written
in it.  So a value that is read as a text of its own length has no such byte in it, and it
is read as itself but for the plus signs.
-/

namespace Artboard
namespace Url

/-! ## Bytes behind percent signs -/

/-- Whether a text begins with a byte behind a percent sign. -/
def beginsEscape : List Char → Bool
  | '%' :: a :: b :: _ => (Text.hexValue? a).isSome && (Text.hexValue? b).isSome
  | _ => false

/-- Whether a byte is written anywhere in a text. -/
def hasEscape : List Char → Bool
  | [] => false
  | c :: rest => beginsEscape (c :: rest) || hasEscape rest

theorem exists_of_beginsEscape {text : List Char} (begins : beginsEscape text = true) :
    ∃ a b high low rest, text = '%' :: a :: b :: rest ∧ Text.hexValue? a = some high ∧
      Text.hexValue? b = some low := by
  unfold beginsEscape at begins
  split at begins
  · rename_i a b rest
    rcases Bool.and_eq_true_iff.mp begins with ⟨isHigh, isLow⟩
    rcases Option.isSome_iff_exists.mp isHigh with ⟨high, first⟩
    rcases Option.isSome_iff_exists.mp isLow with ⟨low, second⟩
    exact ⟨a, b, high, low, rest, rfl, first, second⟩
  · cases begins

theorem percentDecode_escape {a b : Char} {high low : Nat} (first : Text.hexValue? a = some high)
    (second : Text.hexValue? b = some low) (rest : List Char) :
    percentDecode ('%' :: a :: b :: rest) =
      UInt8.ofNat (high * 16 + low) :: percentDecode rest := by
  rw [percentDecode, first, second]

/-- Any other character stands for itself. -/
theorem percentDecode_plain {c : Char} {rest : List Char}
    (plain : beginsEscape (c :: rest) = false) :
    percentDecode (c :: rest) = String.utf8EncodeChar c ++ percentDecode rest := by
  rw [percentDecode.eq_def]
  split
  · rename_i a b others same
    rw [List.cons.injEq] at same
    rw [same.1, same.2, beginsEscape] at plain
    rw [same.1, same.2]
    cases first : Text.hexValue? a with
    | none => rfl
    | some high =>
        cases second : Text.hexValue? b with
        | none => rfl
        | some low =>
            rw [first, second] at plain
            cases plain
  · rename_i first others notEscape same
    rw [List.cons.injEq] at same
    rw [same.1, same.2]
  · rename_i isNil
    cases isNil

theorem percentDecode_of_not_hasEscape {text : List Char} (plain : hasEscape text = false) :
    percentDecode text = Text.toBytes text := by
  induction text with
  | nil => rfl
  | cons c rest inductionHypothesis =>
      rcases Bool.or_eq_false_iff.mp plain with ⟨here, later⟩
      rw [percentDecode_plain here, inductionHypothesis later]
      rfl

/-- A character that is no digit and does not begin a byte keeps bytes on its two sides
apart. -/
theorem hasEscape_append_cons {mark : Char} (notDigit : Text.hexValue? mark = none)
    (notPercent : mark ≠ '%') (before behind : List Char) :
    hasEscape (before ++ mark :: behind) = (hasEscape before || hasEscape behind) := by
  have atMark : beginsEscape (mark :: behind) = false := by
    unfold beginsEscape
    split
    · rename_i same
      rw [List.cons.injEq] at same
      exact absurd same.1 notPercent
    · rfl
  induction before with
  | nil =>
      rw [List.nil_append, hasEscape.eq_def (mark :: behind)]
      dsimp only
      rw [atMark]
      rfl
  | cons c rest inductionHypothesis =>
      have atFirst : beginsEscape (c :: (rest ++ mark :: behind)) = beginsEscape (c :: rest) := by
        by_cases isPercent : c = '%'
        · rw [isPercent]
          rcases rest with _ | ⟨a, _ | ⟨b, rest⟩⟩
          · cases behind <;> simp [beginsEscape, notDigit]
          · simp [beginsEscape, notDigit]
          · rfl
        · simp [beginsEscape, isPercent]
      rw [List.cons_append, hasEscape, hasEscape, atFirst, inductionHypothesis, Bool.or_assoc]

/-! ## Values -/

/-- A name or a value of a query with blanks for its plus signs. -/
def withBlanks (text : List Char) : List Char :=
  text.map fun c => if c = '+' then ' ' else c

/-- What a name or a value of a query stands for. -/
def formDecode (text : List Char) : List Char :=
  Text.ofBytes (percentDecode (withBlanks text))

/-- Behind a character that is begun, percent decoding and reading give no more text than
there was, and less than that if there are bytes behind percent signs: such a byte takes
three characters. -/
theorem length_decodeFrom_percentDecode (text : List Char) (state : Option Text.PartialChar)
    (proper : ∀ pending ∈ state, pending.IsProper) :
    (Text.decodeFrom state (percentDecode text)).length + (hasEscape text).toNat ≤
      text.length + Text.begun state := by
  match text with
  | [] => cases state <;> exact Nat.le_refl _
  | c :: rest =>
      cases begins : beginsEscape (c :: rest) with
      | true =>
          rcases exists_of_beginsEscape begins with
            ⟨a, b, high, low, others, written, first, second⟩
          have shorter : others.length < (c :: rest).length := by
            rw [written, List.length_cons, List.length_cons, List.length_cons]
            omega
          rcases Text.exists_decodeFrom_byte proper (UInt8.ofNat (high * 16 + low)) with
            ⟨read, next, reads, bound, properNext⟩
          have inductionHypothesis := length_decodeFrom_percentDecode others next properNext
          have atMost : (hasEscape (c :: rest)).toNat ≤ 1 := Bool.toNat_le _
          rw [written] at atMost ⊢
          rw [percentDecode_escape first second, reads, List.length_append, List.length_cons,
            List.length_cons, List.length_cons]
          omega
      | false =>
          rcases Text.exists_decodeFrom_char proper c with ⟨read, reads, bound⟩
          have inductionHypothesis := length_decodeFrom_percentDecode rest none (by simp)
          rw [percentDecode_plain begins, reads, List.length_append, hasEscape, begins,
            Bool.false_or, List.length_cons]
          simp only [Text.begun, Option.toList_none, List.length_nil] at inductionHypothesis
          omega
termination_by text.length
decreasing_by
  · exact Nat.lt_succ_self _
  · exact shorter

theorem length_formDecode (text : List Char) :
    (formDecode text).length + (hasEscape (withBlanks text)).toNat ≤ text.length := by
  have bound := length_decodeFrom_percentDecode (withBlanks text) none (by simp)
  simpa [formDecode, Text.ofBytes, withBlanks, Text.begun] using bound

theorem formDecode_of_not_hasEscape {text : List Char}
    (plain : hasEscape (withBlanks text) = false) : formDecode text = withBlanks text := by
  rw [formDecode, percentDecode_of_not_hasEscape plain, Text.ofBytes_toBytes]

/-- A text that is not read as a shorter one is read as itself. -/
theorem formDecode_of_length_le {text : List Char} (long : text.length ≤ (formDecode text).length) :
    hasEscape (withBlanks text) = false ∧ formDecode text = withBlanks text := by
  have plain : hasEscape (withBlanks text) = false := by
    have bound := length_formDecode text
    apply Bool.eq_false_iff.mpr
    intro escaped
    rw [escaped, Bool.toNat_true] at bound
    omega
  exact ⟨plain, formDecode_of_not_hasEscape plain⟩

theorem plus_notMem_withBlanks (text : List Char) : '+' ∉ withBlanks text := by
  intro member
  rcases List.mem_map.mp member with ⟨c, -, same⟩
  split_ifs at same with isPlus
  · cases same
  · exact isPlus same

/-! ## Queries -/

/-- The name and the value of a piece. -/
def pairOf (piece : List Char) : String × String :=
  let parts := Text.cut '=' piece
  (String.ofList (formDecode parts.1), String.ofList (formDecode (parts.2.getD [])))

/-- The names and values of a query; pieces without characters do not count. -/
def formPairs (query : List Char) : List (String × String) :=
  ((Text.splitAt '&' query).filter fun piece => !piece.isEmpty).map pairOf

/-- The names and values in the query of an address. -/
def parameters (address : List Char) : List (String × String) :=
  match (Text.cut '?' (Text.cut '#' address).1).2 with
  | some query => formPairs query
  | none => []

theorem pairOf_append {name : List Char} (noEquals : '=' ∉ name) (value : List Char) :
    pairOf (name ++ '=' :: value) =
      (String.ofList (formDecode name), String.ofList (formDecode value)) := by
  rw [pairOf, Text.cut_append noEquals]
  rfl

/-- The first pair is that of the text up to the first ampersand. -/
theorem exists_formPairs_eq {query : List Char}
    (first : query.takeWhile (· != '&') ≠ []) :
    ∃ others, formPairs query = pairOf (query.takeWhile (· != '&')) :: others := by
  rcases Text.exists_splitAt_eq '&' query with ⟨others, pieces⟩
  have kept : (!(query.takeWhile (· != '&')).isEmpty) = true := by simpa using first
  rw [formPairs, pieces, List.filter_cons, if_pos kept]
  exact ⟨_, rfl⟩

/-- The pairs of two queries with an ampersand in between are those of the one and then
those of the other. -/
theorem formPairs_append_ampersand (first second : List Char) :
    formPairs (first ++ '&' :: second) = formPairs first ++ formPairs second := by
  rw [formPairs, Text.splitAt_append_separator, List.filter_append, List.map_append]
  rfl

theorem formPairs_of_notMem {piece : List Char} (whole : '&' ∉ piece) (notEmpty : piece ≠ []) :
    formPairs piece = [pairOf piece] := by
  have kept : (!piece.isEmpty) = true := by simpa using notEmpty
  rw [formPairs, Text.splitAt_of_notMem whole, List.filter_cons, if_pos kept]
  rfl

theorem formPairs_append {piece : List Char} (whole : '&' ∉ piece) (first : piece ≠ [])
    (rest : List Char) : formPairs (piece ++ '&' :: rest) = pairOf piece :: formPairs rest := by
  rw [formPairs_append_ampersand, formPairs_of_notMem whole first, List.singleton_append]

theorem parameters_of_notMem {front : List Char} (noMark : '?' ∉ front) (noSign : '#' ∉ front) :
    parameters front = [] := by
  rw [parameters, Text.cut_of_notMem noSign, Text.cut_of_notMem noMark]

theorem parameters_append {front : List Char} (noMark : '?' ∉ front) (noSign : '#' ∉ front)
    (query : List Char) :
    parameters (front ++ '?' :: query) = formPairs (query.takeWhile (· != '#')) := by
  have cut : (Text.cut '#' (front ++ '?' :: query)).1 =
      front ++ '?' :: query.takeWhile (· != '#') := by
    calc (Text.cut '#' (front ++ '?' :: query)).1
      _ = (front ++ '?' :: query).takeWhile (· != '#') := Text.cut_fst '#' _
      _ = front ++ ('?' :: query).takeWhile (· != '#') := Text.takeWhile_append_of_notMem noSign _
      _ = front ++ '?' :: query.takeWhile (· != '#') := by
        rw [List.takeWhile_cons_of_pos (by decide)]
  rw [parameters, cut, Text.cut_append noMark]

end Url
end Artboard
