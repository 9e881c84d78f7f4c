import Artboard.Text.Blank
import Artboard.Text.Search

/-!
# Pieces of a text

Splitting a text at a character gives the pieces between its occurrences, and splitting
it at blanks gives its words.  A text that is put together from pieces without the
character comes apart into these pieces again, and so does one that is put together from
words with single blanks in between.
-/

namespace Artboard
namespace Text

/-! ## Pieces between separators -/

variable {separator : Char}

theorem splitAt_ne_nil (separator : Char) (text : List Char) : splitAt separator text ≠ [] := by
  cases text with
  | nil => simp [splitAt]
  | cons c rest =>
      simp only [splitAt]
      split
      · simp
      · split <;> simp

theorem splitAt_separator (rest : List Char) :
    splitAt separator (separator :: rest) = [] :: splitAt separator rest := by
  rw [splitAt, if_pos rfl]

/-- Any other character belongs to the first piece. -/
theorem splitAt_cons_of_ne {c : Char} (different : c ≠ separator) (rest : List Char) :
    ∃ piece others, splitAt separator rest = piece :: others ∧
      splitAt separator (c :: rest) = (c :: piece) :: others := by
  rcases List.exists_cons_of_ne_nil (splitAt_ne_nil separator rest) with ⟨piece, others, pieces⟩
  refine ⟨piece, others, pieces, ?_⟩
  rw [splitAt, if_neg different, pieces]

theorem splitAt_append_separator (before behind : List Char) :
    splitAt separator (before ++ separator :: behind) =
      splitAt separator before ++ splitAt separator behind := by
  induction before with
  | nil => exact splitAt_separator behind
  | cons c rest inductionHypothesis =>
      by_cases isSeparator : c = separator
      · rw [isSeparator, List.cons_append, splitAt_separator, splitAt_separator,
          inductionHypothesis, List.cons_append]
      · rcases splitAt_cons_of_ne isSeparator rest with ⟨piece, others, pieces, longer⟩
        rcases splitAt_cons_of_ne isSeparator (rest ++ separator :: behind) with
          ⟨first, more, all, whole⟩
        rw [inductionHypothesis, pieces, List.cons_append, List.cons.injEq] at all
        rw [List.cons_append, whole, longer, List.cons_append, all.1, all.2]

theorem splitAt_of_notMem {text : List Char} (absent : separator ∉ text) :
    splitAt separator text = [text] := by
  induction text with
  | nil => rfl
  | cons c rest inductionHypothesis =>
      rcases List.ne_and_not_mem_of_not_mem_cons absent with ⟨different, absentLater⟩
      rcases splitAt_cons_of_ne different.symm rest with ⟨piece, others, pieces, longer⟩
      rw [inductionHypothesis absentLater, List.cons.injEq] at pieces
      rw [longer, ← pieces.1, ← pieces.2]

/-- Texts that each end in a separator are the pieces in front of what follows. -/
theorem splitAt_flatMap_append {texts : List (List Char)}
    (absent : ∀ text ∈ texts, separator ∉ text) (rest : List Char) :
    splitAt separator ((texts.flatMap fun text => text ++ [separator]) ++ rest) =
      texts ++ splitAt separator rest := by
  induction texts with
  | nil => rfl
  | cons text texts inductionHypothesis =>
      have first := splitAt_of_notMem (absent text List.mem_cons_self)
      have others := inductionHypothesis fun other member =>
        absent other (List.mem_cons_of_mem text member)
      rw [List.flatMap_cons, List.append_assoc, List.append_assoc, List.singleton_append,
        splitAt_append_separator, first, others]
      rfl

/-- Texts that each follow a separator are the pieces behind what comes first. -/
theorem splitAt_append_flatMap {first : List Char} (whole : separator ∉ first)
    {texts : List (List Char)} (absent : ∀ text ∈ texts, separator ∉ text) :
    splitAt separator (first ++ texts.flatMap fun text => separator :: text) = first :: texts := by
  induction texts generalizing first with
  | nil =>
      rw [List.flatMap_nil, List.append_nil]
      exact splitAt_of_notMem whole
  | cons text texts inductionHypothesis =>
      have others := inductionHypothesis (absent text List.mem_cons_self) fun other member =>
        absent other (List.mem_cons_of_mem text member)
      rw [List.flatMap_cons, List.cons_append, splitAt_append_separator, splitAt_of_notMem whole,
        others]
      rfl

theorem prefix_of_splitAt_eq_cons {text piece : List Char} {others : List (List Char)}
    (pieces : splitAt separator text = piece :: others) : piece <+: text := by
  induction text generalizing piece others with
  | nil =>
      rw [splitAt, List.cons.injEq] at pieces
      exact pieces.1 ▸ List.nil_prefix
  | cons c rest inductionHypothesis =>
      by_cases isSeparator : c = separator
      · rw [isSeparator, splitAt_separator, List.cons.injEq] at pieces
        rw [← pieces.1]
        exact List.nil_prefix
      · rcases splitAt_cons_of_ne isSeparator rest with ⟨first, more, shorter, longer⟩
        rw [longer, List.cons.injEq] at pieces
        rw [← pieces.1]
        exact List.cons_prefix_cons.mpr ⟨rfl, inductionHypothesis shorter⟩

theorem infix_of_mem_splitAt {text piece : List Char} (member : piece ∈ splitAt separator text) :
    piece <:+: text := by
  induction text generalizing piece with
  | nil =>
      rw [splitAt, List.mem_singleton] at member
      exact member ▸ List.nil_infix
  | cons c rest inductionHypothesis =>
      by_cases isSeparator : c = separator
      · rw [isSeparator, splitAt_separator] at member
        rcases List.mem_cons.mp member with isEmpty | later
        · rw [isEmpty]
          exact List.nil_infix
        · exact List.infix_cons (inductionHypothesis later)
      · rcases splitAt_cons_of_ne isSeparator rest with ⟨first, others, pieces, longer⟩
        rw [longer] at member
        rcases List.mem_cons.mp member with isFirst | later
        · rw [isFirst]
          exact (List.cons_prefix_cons.mpr ⟨rfl, prefix_of_splitAt_eq_cons pieces⟩).isInfix
        · apply List.infix_cons
          apply inductionHypothesis
          rw [pieces]
          exact List.mem_cons_of_mem first later

/-- The first piece ends at the first separator. -/
theorem exists_splitAt_eq (separator : Char) (text : List Char) :
    ∃ others, splitAt separator text = text.takeWhile (· != separator) :: others := by
  induction text with
  | nil => exact ⟨[], rfl⟩
  | cons c rest inductionHypothesis =>
      by_cases isSeparator : c = separator
      · rw [isSeparator, splitAt_separator, List.takeWhile_cons_of_neg (by simp)]
        exact ⟨_, rfl⟩
      · rcases inductionHypothesis with ⟨others, pieces⟩
        rw [splitAt, if_neg isSeparator, pieces, List.takeWhile_cons_of_pos (by simpa using isSeparator)]
        exact ⟨others, rfl⟩

theorem takeWhile_append_of_notMem {before : List Char} (absent : separator ∉ before)
    (behind : List Char) :
    (before ++ behind).takeWhile (· != separator) =
      before ++ behind.takeWhile (· != separator) := by
  apply List.takeWhile_append_of_pos
  intro c member
  exact bne_iff_ne.mpr fun same => absent (same ▸ member)

theorem takeWhile_of_notMem {text : List Char} (absent : separator ∉ text) :
    text.takeWhile (· != separator) = text := by
  have whole := takeWhile_append_of_notMem absent []
  rwa [List.append_nil, List.takeWhile_nil, List.append_nil] at whole

theorem takeWhile_append_cons {keep : Char → Bool} {mark : Char} (stops : keep mark = false)
    (before behind : List Char) :
    (before ++ mark :: behind).takeWhile keep = before.takeWhile keep := by
  induction before with
  | nil => simp [stops]
  | cons c rest inductionHypothesis =>
      rw [List.cons_append, List.takeWhile_cons, List.takeWhile_cons, inductionHypothesis]

theorem cut_fst (separator : Char) (text : List Char) :
    (cut separator text).1 = text.takeWhile (· != separator) := by
  rw [cut]
  split <;> rfl

theorem cut_of_notMem {text : List Char} (absent : separator ∉ text) :
    cut separator text = (text, none) := by
  rw [cut, takeWhile_of_notMem absent, List.drop_length]

theorem cut_append {before : List Char} (absent : separator ∉ before) (behind : List Char) :
    cut separator (before ++ separator :: behind) = (before, some behind) := by
  rw [cut, takeWhile_append_of_notMem absent, List.takeWhile_cons_of_neg (by simp),
    List.append_nil, List.drop_left]

/-! ## Words -/

theorem words_blank {c : Char} (blank : isBlank c = true) (rest : List Char) :
    words (c :: rest) = words rest := by
  rw [words.eq_def]
  exact if_pos blank

theorem words_singleton {c : Char} (letter : isBlank c = false) : words [c] = [[c]] := by
  rw [words.eq_def]
  exact if_neg (Bool.eq_false_iff.mp letter)

theorem words_cons_cons {c : Char} (letter : isBlank c = false) (next : Char)
    (rest : List Char) :
    words (c :: next :: rest) =
      if isBlank next then [c] :: words (next :: rest)
      else match words (next :: rest) with
        | [] => [[c]]
        | word :: others => (c :: word) :: others := by
  rw [words.eq_def]
  exact if_neg (Bool.eq_false_iff.mp letter)

/-- A character that is not blank is a word of its own or begins the first word behind
it. -/
theorem words_cons {c : Char} (letter : isBlank c = false) (rest : List Char) :
    words (c :: rest) = [c] :: words rest ∨
      ∃ word others, words rest = word :: others ∧ words (c :: rest) = (c :: word) :: others := by
  cases rest with
  | nil => exact Or.inl (words_singleton letter)
  | cons next more =>
      rw [words_cons_cons letter]
      by_cases blank : isBlank next = true
      · rw [if_pos blank]
        exact Or.inl rfl
      · rw [if_neg blank]
        cases found : words (next :: more) with
        | nil => exact Or.inl rfl
        | cons word others => exact Or.inr ⟨word, others, rfl, rfl⟩

/-- Words have no blanks in them. -/
theorem isBlank_of_mem_words {text word : List Char} (member : word ∈ words text) :
    ∀ c ∈ word, isBlank c = false := by
  induction text generalizing word with
  | nil => cases member
  | cons c rest inductionHypothesis =>
      cases letter : isBlank c with
      | true =>
          rw [words_blank letter] at member
          exact inductionHypothesis member
      | false =>
          rcases words_cons letter rest with apart | ⟨first, others, found, longer⟩
          · rw [apart] at member
            rcases List.mem_cons.mp member with isFirst | later
            · rw [isFirst]
              simpa using letter
            · exact inductionHypothesis later
          · rw [longer] at member
            rcases List.mem_cons.mp member with isFirst | later
            · have firstMember : first ∈ words rest := by
                rw [found]
                exact List.mem_cons_self
              rw [isFirst]
              exact List.forall_mem_cons.mpr ⟨letter, inductionHypothesis firstMember⟩
            · apply inductionHypothesis
              rw [found]
              exact List.mem_cons_of_mem first later

theorem join_cons_cons (between text next : List Char) (others : List (List Char)) :
    join between (text :: next :: others) = text ++ between ++ join between (next :: others) :=
  rfl

/-- Splitting a text loses nothing. -/
theorem join_splitAt (separator : Char) (text : List Char) :
    join [separator] (splitAt separator text) = text := by
  induction text with
  | nil => rfl
  | cons c rest inductionHypothesis =>
      by_cases isSeparator : c = separator
      · rcases List.exists_cons_of_ne_nil (splitAt_ne_nil separator rest) with
          ⟨piece, others, pieces⟩
        rw [pieces] at inductionHypothesis
        rw [isSeparator, splitAt_separator, pieces, join_cons_cons, inductionHypothesis]
        rfl
      · rcases splitAt_cons_of_ne isSeparator rest with ⟨piece, others, pieces, longer⟩
        rw [pieces] at inductionHypothesis
        rw [longer, ← inductionHypothesis]
        cases others <;> rfl

theorem notMem_of_mem_splitAt {text piece : List Char} (member : piece ∈ splitAt separator text) :
    separator ∉ piece := by
  induction text generalizing piece with
  | nil =>
      rw [List.mem_singleton.mp member]
      exact List.not_mem_nil
  | cons c rest inductionHypothesis =>
      by_cases isSeparator : c = separator
      · rw [isSeparator, splitAt_separator] at member
        rcases List.mem_cons.mp member with isEmpty | later
        · rw [isEmpty]
          exact List.not_mem_nil
        · exact inductionHypothesis later
      · rcases splitAt_cons_of_ne isSeparator rest with ⟨first, others, pieces, longer⟩
        rw [pieces] at inductionHypothesis
        rw [longer] at member
        rcases List.mem_cons.mp member with isFirst | later
        · rw [isFirst, List.mem_cons, not_or]
          exact ⟨fun same => isSeparator same.symm, inductionHypothesis List.mem_cons_self⟩
        · exact inductionHypothesis (List.mem_cons_of_mem first later)

/-- What is joined has the characters of its parts and those of the separators. -/
theorem mem_join {between : List Char} {texts : List (List Char)} {c : Char}
    (member : c ∈ join between texts) : c ∈ between ∨ ∃ text ∈ texts, c ∈ text := by
  induction texts with
  | nil => cases member
  | cons text others inductionHypothesis =>
      cases others with
      | nil => exact Or.inr ⟨text, List.mem_cons_self, member⟩
      | cons next others =>
          rw [join_cons_cons, List.mem_append, List.mem_append] at member
          rcases member with (inFirst | inBetween) | later
          · exact Or.inr ⟨text, List.mem_cons_self, inFirst⟩
          · exact Or.inl inBetween
          · rcases inductionHypothesis later with inBetween | ⟨other, otherMember, inOther⟩
            · exact Or.inl inBetween
            · exact Or.inr ⟨other, List.mem_cons_of_mem text otherMember, inOther⟩

/-- A change that only concerns the separator can be made in the separator. -/
theorem map_join {texts : List (List Char)} {mark : Char} {change : Char → Char}
    (keeps : ∀ text ∈ texts, ∀ c ∈ text, change c = c) :
    (join [mark] texts).map change = join [change mark] texts := by
  induction texts with
  | nil => rfl
  | cons text others inductionHypothesis =>
      have kept : text.map change = text := by
        rw [List.map_congr_left (keeps text List.mem_cons_self), List.map_id']
      have later := inductionHypothesis fun other member =>
        keeps other (List.mem_cons_of_mem text member)
      cases others with
      | nil => exact kept
      | cons next others =>
          rw [join_cons_cons, join_cons_cons, List.map_append, List.map_append, kept, later]
          rfl

end Text
end Artboard
