import Mathlib.Tactic.SplitIfs
import Artboard.Text.Lowercase
import Artboard.Proofs.Text.Occurrence

/-!
# Words in lower case text

Outside ASCII a letter has a lower case outside ASCII, with two exceptions: the Kelvin sign
has the letter k, and capital I with a dot above has the letter i with the dot as a character
of its own.  A word of ASCII letters in which there is no k and no i at the end therefore has
no letter from anywhere else, and looking for it in the lower case of a text is looking for
it in the lower case of the letters A to Z alone.  The same is true whatever rule there is
for the sigma at the end of a word.
-/

namespace Artboard
namespace Text

/-- Whether a character is an ASCII character. -/
def isAscii (c : Char) : Bool :=
  c.toNat < 0x80

/-- The lower case of a character, which for a capital sigma may be the one at the end of a
word. -/
def lowerCharWith (isFinal : Bool) (c : Char) : List Char :=
  if c = 'Σ' ∧ isFinal = true then ['ς'] else lowerChar c

/-- The lower case of a text with a rule that says between which texts a capital sigma is at
the end of a word. -/
def lowercaseWith (isFinal : List Char → List Char → Bool) (before : List Char) :
    List Char → List Char
  | [] => []
  | c :: rest =>
    lowerCharWith (isFinal before rest) c ++ lowercaseWith isFinal (before ++ [c]) rest

/-- Without such a rule every capital sigma has the same lower case. -/
theorem lowercaseWith_never (before text : List Char) :
    lowercaseWith (fun _ _ => false) before text = lowercase text := by
  induction text generalizing before with
  | nil => rfl
  | cons c rest inductionHypothesis =>
      rw [lowercaseWith, inductionHypothesis, lowerCharWith, if_neg (by simp)]
      rfl

/-! ## The lower case of one character -/

/-- A run whose lower cases are characters outside ASCII. -/
def CaseRun.IsForeign (run : CaseRun) : Prop :=
  0x80 ≤ run.first + run.shift ∧
    (run.last + run.shift < 0xD800 ∨
      0xDFFF < run.first + run.shift ∧ run.last + run.shift < 0x110000)

instance (run : CaseRun) : Decidable run.IsForeign :=
  inferInstanceAs (Decidable (_ ∧ _))

/-- All runs but the one for the Kelvin sign stay outside ASCII. -/
theorem isForeign_caseRuns :
    ∀ run ∈ caseRuns, run.IsForeign ∨ run = ⟨0x212A, 0x212A, 1, -8383⟩ := by
  decide +kernel

theorem toNat_ofNat_of_lt {n : Nat} (valid : n < 0xD800 ∨ 0xDFFF < n ∧ n < 0x110000) :
    (Char.ofNat n).toNat = n := by
  rw [Char.ofNat, dif_pos valid]
  rfl

theorem lower_of_isForeign {run : CaseRun} (foreign : run.IsForeign) {c : Char}
    (holds : run.holds c = true) :
    isAscii (Char.ofNat (c.toNat + run.shift).toNat) = false := by
  rcases foreign with ⟨least, valid⟩
  simp only [CaseRun.holds, Bool.and_eq_true, decide_eq_true_eq] at holds
  rcases holds with ⟨⟨low, high⟩, -⟩
  have isChar : (c.toNat + run.shift).toNat < 0xD800 ∨
      0xDFFF < (c.toNat + run.shift).toNat ∧ (c.toNat + run.shift).toNat < 0x110000 := by
    omega
  rw [isAscii, toNat_ofNat_of_lt isChar, decide_eq_false_iff_not]
  omega

/-- What the lower case of a character outside ASCII is. -/
theorem lowerChar_foreign {c : Char} (foreign : isAscii c = false) :
    lowerChar c = ['i', '\u0307'] ∨
      ∃ lower, lowerChar c = [lower] ∧ (lower = 'k' ∨ isAscii lower = false) := by
  rw [isAscii, decide_eq_false_iff_not] at foreign
  rw [lowerChar, if_neg foreign]
  split_ifs with dotted
  · exact Or.inl rfl
  · refine Or.inr ?_
    cases found : caseRuns.find? (·.holds c) with
    | none => exact ⟨c, rfl, Or.inr (by rw [isAscii, decide_eq_false_iff_not]; exact foreign)⟩
    | some run =>
        refine ⟨_, rfl, ?_⟩
        have holds := List.find?_some found
        rcases isForeign_caseRuns run (List.mem_of_find?_eq_some found) with stays | kelvin
        · exact Or.inr (lower_of_isForeign stays holds)
        · left
          subst kelvin
          simp only [CaseRun.holds, Bool.and_eq_true, decide_eq_true_eq] at holds
          have value : c.toNat = 0x212A := by omega
          rw [value]
          rfl

theorem lowerChar_ascii {c : Char} (ascii : isAscii c = true) : lowerChar c = [c.toLower] := by
  rw [isAscii, decide_eq_true_eq] at ascii
  rw [lowerChar, if_pos ascii]

theorem toLower_foreign {c : Char} (foreign : isAscii c = false) : c.toLower = c := by
  rw [isAscii, decide_eq_false_iff_not] at foreign
  apply dif_neg
  rintro ⟨-, high⟩
  have small := UInt32.le_iff_toNat_le.mp high
  exact foreign (Nat.lt_of_le_of_lt small (by decide))

/-! ## Words without foreign letters -/

/-- Whether only ASCII letters become the letters of a word in lower case: it has ASCII letters
only, no k, and no i at the end. -/
def isPlainWord (word : List Char) : Bool :=
  word.all (fun c => isAscii c && c != 'k') && word.getLast? != some 'i'

theorem isPlainWord_cons {first : Char} {word : List Char}
    (plain : isPlainWord (first :: word) = true) :
    (isAscii first = true ∧ first ≠ 'k') ∧ (first = 'i' → word ≠ []) ∧
      isPlainWord word = true := by
  simp only [isPlainWord, List.all_cons, Bool.and_eq_true, bne_iff_ne] at plain ⊢
  rcases plain with ⟨⟨here, later⟩, last⟩
  refine ⟨here, ?_, later, ?_⟩
  · rintro isI rfl
    exact last (congrArg some isI)
  · cases word with
    | nil => simp
    | cons next word => rwa [List.getLast?_cons_cons] at last

theorem ne_of_isAscii {c other : Char} (ascii : isAscii c = true)
    (foreign : isAscii other = false) : c ≠ other := by
  intro same
  rw [same, foreign] at ascii
  cases ascii

theorem passes_singleton {first c : Char} (different : first ≠ c) (word : List Char) :
    passes (first :: word) [c] = true := by
  simp [passes, differs, different]

theorem lowerCharWith_ascii (isFinal : Bool) {c : Char} (ascii : isAscii c = true) :
    lowerCharWith isFinal c = [c.toLower] := by
  have notSigma : c ≠ 'Σ' := ne_of_isAscii ascii rfl
  rw [lowerCharWith, if_neg fun isSigma => notSigma isSigma.1, lowerChar_ascii ascii]

theorem lowerCharWith_foreign (isFinal : Bool) {c : Char} (foreign : isAscii c = false) :
    lowerCharWith isFinal c = ['i', '\u0307'] ∨
      ∃ lower, lowerCharWith isFinal c = [lower] ∧ (lower = 'k' ∨ isAscii lower = false) := by
  rw [lowerCharWith]
  split_ifs
  · exact Or.inr ⟨'ς', rfl, Or.inr rfl⟩
  · exact lowerChar_foreign foreign

theorem lowerCharWith_ne_nil (isFinal : Bool) {c : Char} (foreign : isAscii c = false) :
    lowerCharWith isFinal c ≠ [] := by
  rcases lowerCharWith_foreign isFinal foreign with dotted | ⟨lower, alone, -⟩
  · rw [dotted]
    exact List.cons_ne_nil _ _
  · rw [alone]
    exact List.cons_ne_nil _ _

/-- No word without foreign letters begins in the lower case of a character outside ASCII. -/
theorem passes_lowerCharWith {first : Char} {word : List Char}
    (plain : isPlainWord (first :: word) = true) (isFinal : Bool) {c : Char}
    (foreign : isAscii c = false) :
    passes (first :: word) (lowerCharWith isFinal c) = true := by
  rcases isPlainWord_cons plain with ⟨⟨ascii, notK⟩, goesOn, plainLater⟩
  rcases lowerCharWith_foreign isFinal foreign with dotted | ⟨lower, alone, isK | foreignLower⟩
  · -- The letter i of the dotted capital is followed by the dot, which is in no word.
    rw [dotted]
    have notDot : first ≠ '\u0307' := ne_of_isAscii ascii rfl
    have begins : differs (first :: word) ['i', '\u0307'] = true := by
      by_cases isI : first = 'i'
      · rcases List.exists_cons_of_ne_nil (goesOn isI) with ⟨next, more, split⟩
        rw [split] at plainLater ⊢
        have nextNotDot : next ≠ '\u0307' :=
          ne_of_isAscii (isPlainWord_cons plainLater).1.1 rfl
        simp [differs, nextNotDot]
      · simp [differs, isI]
    rw [passes, begins, passes_singleton notDot word]
    rfl
  · rw [alone, isK]
    exact passes_singleton notK word
  · rw [alone]
    exact passes_singleton (ne_of_isAscii ascii foreignLower) word

/-! ## Words in texts -/

theorem lowercaseAscii_cons (c : Char) (rest : List Char) :
    lowercaseAscii (c :: rest) = c.toLower :: lowercaseAscii rest := rfl

theorem lowercaseAscii_foreign {c : Char} (foreign : isAscii c = false) (rest : List Char) :
    lowercaseAscii (c :: rest) = [c] ++ lowercaseAscii rest := by
  rw [lowercaseAscii_cons, toLower_foreign foreign, List.singleton_append]

variable (isFinal : List Char → List Char → Bool)

theorem lowercaseWith_ascii {c : Char} (ascii : isAscii c = true) (before rest : List Char) :
    lowercaseWith isFinal before (c :: rest) =
      c.toLower :: lowercaseWith isFinal (before ++ [c]) rest := by
  rw [lowercaseWith, lowerCharWith_ascii _ ascii, List.singleton_append]

theorem isPrefixOf_lowercaseWith (text : List Char) {word : List Char}
    (plain : isPlainWord word = true) (before : List Char) :
    word.isPrefixOf (lowercaseWith isFinal before text) =
      word.isPrefixOf (lowercaseAscii text) := by
  induction text generalizing word before with
  | nil => rfl
  | cons c rest inductionHypothesis =>
      cases word with
      | nil => rw [List.isPrefixOf_nil_left, List.isPrefixOf_nil_left]
      | cons first word =>
          cases ascii : isAscii c with
          | true =>
              have later := inductionHypothesis (isPlainWord_cons plain).2.2 (before ++ [c])
              rw [lowercaseWith_ascii isFinal ascii, lowercaseAscii_cons,
                List.isPrefixOf_cons_cons, List.isPrefixOf_cons_cons, later]
          | false =>
              have different := ne_of_isAscii (isPlainWord_cons plain).1.1 ascii
              have here := isPrefixOf_append_of_passes (List.cons_ne_nil c [])
                (passes_singleton different word) (lowercaseAscii rest)
              have lower := isPrefixOf_append_of_passes
                (lowerCharWith_ne_nil (isFinal before rest) ascii)
                (passes_lowerCharWith plain (isFinal before rest) ascii)
                (lowercaseWith isFinal (before ++ [c]) rest)
              rw [lowercaseWith, lower, lowercaseAscii_foreign ascii, here]

/-- A word without foreign letters is in the lower case of a text if it is in the lower case
of its letters A to Z. -/
theorem contains_lowercaseWith (text : List Char) {first : Char} {word : List Char}
    (plain : isPlainWord (first :: word) = true) (before : List Char) :
    contains (first :: word) (lowercaseWith isFinal before text) =
      contains (first :: word) (lowercaseAscii text) := by
  induction text generalizing before with
  | nil => rfl
  | cons c rest inductionHypothesis =>
      have later := inductionHypothesis (before ++ [c])
      cases ascii : isAscii c with
      | true =>
          have here := isPrefixOf_lowercaseWith isFinal (c :: rest) plain before
          rw [lowercaseWith_ascii isFinal ascii, lowercaseAscii_cons] at here ⊢
          rw [contains_cons, here, later, contains_cons]
      | false =>
          have different := ne_of_isAscii (isPlainWord_cons plain).1.1 ascii
          have here := contains_append_of_passes (passes_singleton different word)
            (lowercaseAscii rest)
          have lower := contains_append_of_passes
            (passes_lowerCharWith plain (isFinal before rest) ascii)
            (lowercaseWith isFinal (before ++ [c]) rest)
          rw [lowercaseWith, lower, later, lowercaseAscii_foreign ascii, here]

end Text
end Artboard
