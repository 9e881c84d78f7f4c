import Artboard.Markup.Element
import Artboard.Proofs.Text.Lowercase

/-!
# Elements from names

The rules look for words in the lower case of a name.  None of these words has a letter that
anything but an ASCII letter becomes in lower case, so the rules do not tell a name from its
ASCII lower case, whatever else is in it.  Text before and behind a name hides no word of it.
As the rules are tried in a fixed order, more words never make a later rule decide; only the
refinement of the controls needs a look, because it is tried when a control is named.
-/

namespace Artboard
namespace Markup
namespace Element

/-- The words that the rules look for. -/
def keywords : List String :=
  ["button", "btn", "input", "field", "textbox", "password", "email"]

/-- The place of the rule that an element comes from. -/
def rank : Element → Nat
  | button => 0
  | passwordInput => 1
  | emailInput => 2
  | textInput _ => 3
  | span | div => 4

/-! ## Case -/

theorem isPlainWord_keywords :
    ∀ word ∈ keywords, word.toList ≠ [] ∧ Text.isPlainWord word.toList = true := by
  decide

theorem contains_keyword (isFinal : List Char → List Char → Bool) (name : List Char)
    {word : String} (member : word ∈ keywords) :
    Text.contains word.toList (Text.lowercaseWith isFinal [] name) =
      Text.contains word.toList (Text.lowercaseAscii name) := by
  rcases isPlainWord_keywords word member with ⟨any, plain⟩
  rcases List.exists_cons_of_ne_nil any with ⟨first, letters, split⟩
  rw [split] at plain ⊢
  exact Text.contains_lowercaseWith isFinal name plain []

theorem mentions_lowercaseWith (isFinal : List Char → List Char → Bool) (name : List Char)
    {words : List String} (known : words ⊆ keywords) :
    mentions words (Text.lowercaseWith isFinal [] name) =
      mentions words (Text.lowercaseAscii name) := by
  induction words with
  | nil => rfl
  | cons word words inductionHypothesis =>
      have first := contains_keyword isFinal name (known List.mem_cons_self)
      have others := inductionHypothesis (List.subset_of_cons_subset known)
      simp only [mentions, List.any_cons] at others ⊢
      rw [first, others]

variable (shape : Shape) (characters : Option String)

theorem ofLowerName_lowercaseWith (isFinal : List Char → List Char → Bool) (name : List Char) :
    ofLowerName (Text.lowercaseWith isFinal [] name) shape characters =
      ofLowerName (Text.lowercaseAscii name) shape characters := by
  have buttons : ["button", "btn"] ⊆ keywords := by decide
  have controls : ["input", "field", "textbox"] ⊆ keywords := by decide
  have password : ["password"] ⊆ keywords := by decide
  have email : ["email"] ⊆ keywords := by decide
  rw [ofLowerName, ofLowerName, mentions_lowercaseWith isFinal name buttons,
    mentions_lowercaseWith isFinal name controls, mentions_lowercaseWith isFinal name password,
    mentions_lowercaseWith isFinal name email]

theorem ofLayer_eq_ofLowerName (layer : Layer) :
    ofLayer layer =
      ofLowerName (Text.lowercaseAscii layer.name.toList) layer.shape layer.characters := by
  rw [ofLayer, ← Text.lowercaseWith_never [], ofLowerName_lowercaseWith]

/-! ## Longer names -/

theorem mentions_of_infix {words : List String} {name longer : List Char}
    (inside : name <:+: longer) (mentioned : mentions words name = true) :
    mentions words longer = true := by
  rcases List.any_eq_true.mp mentioned with ⟨word, member, found⟩
  refine List.any_eq_true.mpr ⟨word, member, ?_⟩
  exact Text.contains_iff_infix.mpr ((Text.contains_iff_infix.mp found).trans inside)

theorem rank_ofLowerName (name : List Char) :
    (ofLowerName name shape characters).rank =
      if mentions ["button", "btn"] name then 0
      else if mentions ["input", "field", "textbox"] name then
        if mentions ["password"] name then 1
        else if mentions ["email"] name then 2
        else 3
      else 4 := by
  rw [ofLowerName]
  split_ifs <;> rfl

/-- More words do not make a later rule decide. -/
theorem rank_ofLowerName_le {name longer : List Char} (inside : name <:+: longer) :
    (ofLowerName longer shape characters).rank ≤ (ofLowerName name shape characters).rank := by
  have more (words : List String) (mentioned : mentions words name = true) :
      mentions words longer = true := mentions_of_infix inside mentioned
  rw [rank_ofLowerName, rank_ofLowerName]
  by_cases button : mentions ["button", "btn"] name = true
  · rw [if_pos (more _ button)]
    exact Nat.zero_le _
  rw [if_neg button]
  by_cases control : mentions ["input", "field", "textbox"] name = true
  · rw [if_pos control, if_pos (more _ control)]
    -- A control stays one or becomes a button; what refines it is still there.
    by_cases password : mentions ["password"] name = true
    · rw [if_pos password, if_pos (more _ password)]
      split_ifs <;> omega
    rw [if_neg password]
    by_cases email : mentions ["email"] name = true
    · rw [if_pos email, if_pos (more _ email)]
      split_ifs <;> omega
    · rw [if_neg email]
      split_ifs <;> omega
  · rw [if_neg control]
    split_ifs <;> omega

theorem rank_ofLayer_le (layer : Layer) (before behind : String) :
    (ofLayer { layer with name := before ++ layer.name ++ behind }).rank ≤
      (ofLayer layer).rank := by
  have inside : Text.lowercaseAscii layer.name.toList <:+:
      Text.lowercaseAscii (before ++ layer.name ++ behind).toList := by
    rw [String.toList_append, String.toList_append]
    exact List.IsInfix.map _ (List.infix_append _ _ _)
  rw [ofLayer_eq_ofLowerName, ofLayer_eq_ofLowerName]
  exact rank_ofLowerName_le layer.shape layer.characters inside

/-! ## What the last rules make of a shape -/

theorem ofLowerName_eq_span_iff (name : List Char) :
    ofLowerName name shape characters = .span ↔
      (ofLowerName name shape characters).rank = 4 ∧ shape = .text := by
  rw [ofLowerName]
  split_ifs with _ _ _ _ isText <;> simp_all [rank]

theorem ofLowerName_eq_div_iff (name : List Char) :
    ofLowerName name shape characters = .div ↔
      (ofLowerName name shape characters).rank = 4 ∧ shape ≠ .text := by
  rw [ofLowerName]
  split_ifs with _ _ _ _ isText <;> simp_all [rank]

theorem ofLowerName_eq_textInput_iff (name : List Char) (placeholder : String) :
    ofLowerName name shape characters = .textInput placeholder ↔
      (ofLowerName name shape characters).rank = 3 ∧
        placeholder = if shape = .text then characters.getD "" else "" := by
  have own : ownText shape characters = if shape = .text then characters.getD "" else "" := by
    cases shape <;> rfl
  rw [← own, ofLowerName]
  split_ifs <;> simp [rank, eq_comm]

/-- The rules do not tell a name from its ASCII lower case, neither in the words they find in it
nor in the element, whichever rule there is for the sigma at the end of a word.  Text before
and behind a name leads to the same element or to one of an earlier rule.  Where no word
decides, a text becomes a span and anything else a div, and only a text has its characters
as the placeholder of a control. -/
theorem ofLayer_follows_words (layer : Layer) :
    (∀ isFinal,
      (keywords.map fun word =>
          Text.contains word.toList (Text.lowercaseWith isFinal [] layer.name.toList)) =
        keywords.map fun word =>
          Text.contains word.toList (Text.lowercaseAscii layer.name.toList)) ∧
      (∀ isFinal,
        ofLowerName (Text.lowercaseWith isFinal [] layer.name.toList) layer.shape
            layer.characters =
          ofLowerName (Text.lowercaseAscii layer.name.toList) layer.shape layer.characters) ∧
      ofLayer layer =
        ofLowerName (Text.lowercaseAscii layer.name.toList) layer.shape layer.characters ∧
      (∀ before behind : String,
        (ofLayer { layer with name := before ++ layer.name ++ behind }).rank ≤
          (ofLayer layer).rank) ∧
      (ofLayer layer = .span ↔ (ofLayer layer).rank = 4 ∧ layer.shape = .text) ∧
      (ofLayer layer = .div ↔ (ofLayer layer).rank = 4 ∧ layer.shape ≠ .text) ∧
      ∀ placeholder, ofLayer layer = .textInput placeholder ↔
        (ofLayer layer).rank = 3 ∧
          placeholder = if layer.shape = .text then layer.characters.getD "" else "" := by
  refine ⟨?_, ?_, ofLayer_eq_ofLowerName layer, rank_ofLayer_le layer, ?_, ?_, ?_⟩
  · intro isFinal
    apply List.map_congr_left
    intro word member
    exact contains_keyword isFinal layer.name.toList member
  · intro isFinal
    exact ofLowerName_lowercaseWith layer.shape layer.characters isFinal layer.name.toList
  · exact ofLowerName_eq_span_iff layer.shape layer.characters _
  · exact ofLowerName_eq_div_iff layer.shape layer.characters _
  · exact ofLowerName_eq_textInput_iff layer.shape layer.characters _

/-- The dot of a dotted capital I stays between the letters of a word. -/
example : ofLayer (.ofShape "1" "EMAİL FİELD" .frame) = .div := by decide +kernel

end Element
end Markup
end Artboard
