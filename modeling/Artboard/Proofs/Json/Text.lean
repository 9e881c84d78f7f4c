import Artboard.Proofs.Json.Attempt
import Artboard.Proofs.Json.Source

/-!
# Reading quoted texts

The reader of a quoted text takes its pieces one by one, and so do these proofs: what it
makes of all pieces follows from what it does with one of each kind.  Whether a text is
read depends on its surrogates only, and passing over a text does not even ask for these.
-/

namespace Artboard
namespace Json

@[simp] theorem renderPieces_nil : renderPieces [] = [] := rfl

@[simp] theorem renderPieces_cons (piece : Piece) (pieces : List Piece) :
    renderPieces (piece :: pieces) = piece.render ++ renderPieces pieces := rfl

theorem toOption_prependChar (c : Char) (read : Except Fault (List Char × List Char)) :
    (prependChar c read).toOption = read.toOption.map fun found => (c :: found.1, found.2) := by
  cases read <;> rfl

/-! ## One piece -/

theorem textBody_plain {c : Char} (isPlain : c ≠ '"' ∧ c ≠ '\\' ∧ ¬c.toNat < 0x20)
    (rest : List Char) : textBody (c :: rest) = prependChar c (textBody rest) := by
  rcases isPlain with ⟨notQuote, notEscape, notControl⟩
  rw [textBody]
  · rw [if_neg notControl]
  all_goals simp_all

theorem skipTextBody_plain {c : Char} (isPlain : c ≠ '"' ∧ c ≠ '\\' ∧ ¬c.toNat < 0x20)
    (rest : List Char) : skipTextBody (c :: rest) = skipTextBody rest := by
  rcases isPlain with ⟨notQuote, notEscape, notControl⟩
  rw [skipTextBody]
  · rw [if_neg notControl]
  all_goals simp_all

theorem ne_u_of_shortEscape? {letter c : Char} (isShort : shortEscape? letter = some c) :
    letter ≠ 'u' := by
  intro same
  subst same
  cases isShort

theorem textBody_short {letter c : Char} (isShort : shortEscape? letter = some c)
    (rest : List Char) : textBody ('\\' :: letter :: rest) = prependChar c (textBody rest) := by
  unfold shortEscape? at isShort
  split at isShort
  all_goals cases isShort
  all_goals rfl

theorem skipTextBody_short {letter c : Char} (isShort : shortEscape? letter = some c)
    (rest : List Char) : skipTextBody ('\\' :: letter :: rest) = skipTextBody rest := by
  unfold shortEscape? at isShort
  split at isShort
  all_goals cases isShort
  all_goals rfl

/-- What is read behind a code. -/
def behindCode (code : Nat) (rest : List Char) : Except Fault (List Char × List Char) :=
  if isLowSurrogate code then .error ⟨.loneSurrogate, byteCount rest⟩
  else if isHighSurrogate code then
    match rest with
    | '\\' :: 'u' :: e :: f :: g :: h :: tail =>
      match hexCode? e f g h with
      | none => .error (codeFault (e :: f :: g :: h :: tail))
      | some low =>
        if isLowSurrogate low then prependChar (pairedChar code low) (textBody tail)
        else .error ⟨.loneSurrogate, byteCount tail⟩
    | rest => .error (pairFault rest)
  else prependChar (Char.ofNat code) (textBody rest)

theorem textBody_code {a b c d : Char} {code : Nat} (isCode : hexCode? a b c d = some code)
    (rest : List Char) :
    textBody ('\\' :: 'u' :: a :: b :: c :: d :: rest) = behindCode code rest := by
  rw [textBody, isCode]
  rfl

theorem skipTextBody_code {a b c d : Char} {code : Nat} (isCode : hexCode? a b c d = some code)
    (rest : List Char) :
    skipTextBody ('\\' :: 'u' :: a :: b :: c :: d :: rest) = skipTextBody rest := by
  have opened : skipTextBody ('\\' :: 'u' :: a :: b :: c :: d :: rest) =
      if (hexCode? a b c d).isSome then skipTextBody rest
      else .error (codeFault (a :: b :: c :: d :: rest)) := rfl
  rw [opened, isCode]
  rfl

/-- A high surrogate is refused when no code comes next. -/
theorem textBody_unpaired {pieces : List Piece} {high : Nat} {a b c d : Char}
    (isCode : hexCode? a b c d = some high) (isHigh : isHighSurrogate high = true)
    (notLow : isLowSurrogate high = false)
    (noCode : ∀ e f g h low isCode others, pieces ≠ .code e f g h low isCode :: others)
    (rest : List Char) :
    (textBody ('\\' :: 'u' :: a :: b :: c :: d :: (renderPieces pieces ++ '"' :: rest))).toOption =
      none := by
  rw [textBody_code isCode]
  unfold behindCode
  simp only [notLow, isHigh, if_true, Bool.false_eq_true, if_false]
  rcases pieces with _ | ⟨piece, pieces⟩
  · rfl
  · cases piece with
    | plain c isPlain =>
        simp only [renderPieces_cons, Piece.render, List.cons_append]
        split
        · next same => exact absurd (List.cons.inj same).1 isPlain.2.1
        · rfl
    | short letter c isShort =>
        simp only [renderPieces_cons, Piece.render, List.cons_append, List.nil_append]
        split
        · next same =>
            exact absurd (List.cons.inj (List.cons.inj same).2).1 (ne_u_of_shortEscape? isShort)
        · rfl
    | code e f g h low isCode => exact absurd rfl (noCode e f g h low isCode pieces)

/-! ## All pieces -/

/-- A quoted text is read as the characters that its pieces stand for. -/
theorem textBody_pieces (pieces : List Piece) (rest : List Char) :
    (textBody (renderPieces pieces ++ '"' :: rest)).toOption =
      (spelled? pieces).map fun chars => (chars, rest) := by
  fun_induction spelled? pieces with
  | case1 => rfl
  | case2 c isPlain pieces inductionHypothesis =>
      simp only [renderPieces_cons, Piece.render, List.cons_append, List.nil_append]
      rw [textBody_plain isPlain, toOption_prependChar, inductionHypothesis]
      simp [Function.comp_def]
  | case3 letter c isShort pieces inductionHypothesis =>
      simp only [renderPieces_cons, Piece.render, List.cons_append, List.nil_append]
      rw [textBody_short isShort, toOption_prependChar, inductionHypothesis]
      simp [Function.comp_def]
  | case4 a b c d code isCode pieces isLow =>
      simp [Piece.render, textBody_code isCode, behindCode, isLow, Except.toOption]
  | case5 a b c d code isCode notLow isHigh e f g h low isLowCode others isLow
      inductionHypothesis =>
      simp only [renderPieces_cons, Piece.render, List.cons_append, List.nil_append]
      rw [textBody_code isCode]
      unfold behindCode
      simp only [notLow, isHigh, if_true, Bool.false_eq_true, if_false, isLowCode, isLow]
      rw [toOption_prependChar, inductionHypothesis]
      simp [Function.comp_def]
  | case6 a b c d code isCode notLow isHigh e f g h low isLowCode others otherNotLow =>
      simp [Piece.render, textBody_code isCode, behindCode, notLow, isHigh, isLowCode,
        otherNotLow, Except.toOption]
  | case7 a b c d code isCode pieces notLow isHigh noCode =>
      simp only [renderPieces_cons, Piece.render, List.cons_append, List.nil_append]
      exact textBody_unpaired isCode isHigh (by simpa using notLow) noCode rest
  | case8 a b c d code isCode pieces notLow notHigh inductionHypothesis =>
      simp only [renderPieces_cons, Piece.render, List.cons_append, List.nil_append]
      rw [textBody_code isCode]
      unfold behindCode
      simp only [notLow, notHigh, Bool.false_eq_true, if_false]
      rw [toOption_prependChar, inductionHypothesis]
      simp [Function.comp_def]

/-- Passing over a quoted text always succeeds. -/
theorem skipTextBody_pieces (pieces : List Piece) (rest : List Char) :
    skipTextBody (renderPieces pieces ++ '"' :: rest) = .ok ((), rest) := by
  induction pieces with
  | nil => rfl
  | cons piece pieces inductionHypothesis =>
      rw [← inductionHypothesis]
      cases piece with
      | plain c isPlain => exact skipTextBody_plain isPlain _
      | short letter c isShort => exact skipTextBody_short isShort _
      | code a b c d code isCode => exact skipTextBody_code isCode _

theorem attempt_quotedText (pieces : List Piece) (rest : List Char) :
    attempt quotedText (renderQuoted pieces ++ rest) =
      (said? pieces).map fun value => (value, rest) := by
  have body : attempt (textBody : Reader (List Char)) (renderPieces pieces ++ '"' :: rest) =
      (spelled? pieces).map fun chars => (chars, rest) := textBody_pieces pieces rest
  simp only [quotedText, renderQuoted, attempt_bind, attempt_advance, attempt_pure,
    Option.bind_some, List.cons_append, List.tail_cons, List.append_assoc, List.nil_append,
    body, said?]
  cases spelled? pieces <;> rfl

theorem attempt_skipQuotedText (pieces : List Piece) (rest : List Char) :
    attempt skipQuotedText (renderQuoted pieces ++ rest) = some ((), rest) := by
  have body : attempt (skipTextBody : Reader Unit) (renderPieces pieces ++ '"' :: rest) =
      some ((), rest) := by
    rw [attempt, skipTextBody_pieces]
    rfl
  simp [skipQuotedText, renderQuoted, body]

end Json
end Artboard
