import Mathlib.Tactic.SplitIfs
import Artboard.Markup.Text

/-!
# Entities

Each escape replaces one character after the other in a whole text, and what it does at once
is said by a table: every character of the table is written as its entity and every other
one as it is.  A replacement adds an entry to the table of those before it as long as none
of their entities has the replaced character in it, which is why the ampersand comes first.

What a table is good for is said of tables in general.  Only the ampersand of an entity
remains of the characters of the table, so reading the entities gives the text back,
whatever is in it and whatever other text follows.
-/

namespace Artboard
namespace Markup

/-- Read the entities and leave all other text as it is. -/
def unescape : List Char → List Char
  | '&' :: 'a' :: 'm' :: 'p' :: ';' :: rest => '&' :: unescape rest
  | '&' :: 'l' :: 't' :: ';' :: rest => '<' :: unescape rest
  | '&' :: 'g' :: 't' :: ';' :: rest => '>' :: unescape rest
  | '&' :: 'q' :: 'u' :: 'o' :: 't' :: ';' :: rest => '"' :: unescape rest
  | '&' :: '#' :: '3' :: '9' :: ';' :: rest => '\'' :: unescape rest
  | c :: rest => c :: unescape rest
  | [] => []

theorem unescape_cons {c : Char} (plain : c ≠ '&') (rest : List Char) :
    unescape (c :: rest) = c :: unescape rest := by
  rw [unescape.eq_def]
  split <;> simp_all

theorem unescape_append_of_notMem {text : List Char} (plain : '&' ∉ text) (rest : List Char) :
    unescape (text ++ rest) = text ++ unescape rest := by
  induction text with
  | nil => rfl
  | cons c text inductionHypothesis =>
      rcases List.ne_and_not_mem_of_not_mem_cons plain with ⟨different, plainLater⟩
      rw [List.cons_append, unescape_cons different.symm, inductionHypothesis plainLater,
        List.cons_append]

/-! ## Replacements at once -/

/-- What a character is written as. -/
def written (entries : List (Char × List Char)) (c : Char) : List Char :=
  (entries.lookup c).getD [c]

theorem mem_of_lookup {entries : List (Char × List Char)} {c : Char} {entity : List Char}
    (found : entries.lookup c = some entity) : (c, entity) ∈ entries := by
  rcases List.lookup_eq_some_iff.mp found with ⟨before, behind, split, -⟩
  rw [split]
  exact List.mem_append_right before List.mem_cons_self

theorem replace_of_notMem {mark : Char} {text : List Char} (absent : mark ∉ text)
    (entity : String) : replace mark entity text = text := by
  induction text with
  | nil => rfl
  | cons c text inductionHypothesis =>
      rcases List.ne_and_not_mem_of_not_mem_cons absent with ⟨different, absentLater⟩
      have later := inductionHypothesis absentLater
      rw [replace] at later ⊢
      rw [List.flatMap_cons, if_neg different.symm, later, List.singleton_append]

theorem replace_written {entries : List (Char × List Char)} {mark : Char}
    (fresh : ∀ entry ∈ entries, mark ∉ entry.2) (entity : String) (c : Char) :
    replace mark entity (written entries c) = written (entries ++ [(mark, entity.toList)]) c := by
  rw [written, written, List.lookup_append]
  cases found : entries.lookup c with
  | some known => exact replace_of_notMem (fresh _ (mem_of_lookup found)) entity
  | none =>
      by_cases isMark : c = mark
      · subst isMark
        simp [replace]
      · have other : (c == mark) = false := beq_eq_false_iff_ne.mpr isMark
        simp [replace, List.lookup_cons, other, isMark]

/-- One more replacement is one more entry, if it leaves the entities so far alone. -/
theorem replace_flatMap_written {entries : List (Char × List Char)} {mark : Char}
    (fresh : ∀ entry ∈ entries, mark ∉ entry.2) (entity : String) (text : List Char) :
    replace mark entity (text.flatMap (written entries)) =
      text.flatMap (written (entries ++ [(mark, entity.toList)])) := by
  have each := funext (replace_written fresh entity)
  rw [replace, List.flatMap_assoc]
  exact congrArg text.flatMap each

theorem flatMap_written_nil (text : List Char) : text.flatMap (written []) = text :=
  List.flatMap_singleton' text

/-! ## Tables -/

/-- A table of entities that can be told from other text and read back. -/
structure EntityTable where
  entries : List (Char × List Char)
  /-- The ampersand itself is in the table. -/
  ampersand : (entries.lookup '&').isSome = true
  begins : ∀ entry ∈ entries, entry.2.head? = some '&' ∧ '&' ∉ entry.2.tail
  /-- No character of the table but the ampersand is in an entity. -/
  clean : ∀ entry ∈ entries, entry.1 ≠ '&' → ∀ other ∈ entries, entry.1 ∉ other.2
  reads : ∀ entry ∈ entries, ∀ rest, unescape (entry.2 ++ rest) = entry.1 :: unescape rest

namespace EntityTable

/-- A text with each character of the table written as its entity. -/
def encode (table : EntityTable) (text : List Char) : List Char :=
  text.flatMap (written table.entries)

variable (table : EntityTable)

theorem encode_cons (c : Char) (text : List Char) :
    table.encode (c :: text) = written table.entries c ++ table.encode text :=
  List.flatMap_cons

theorem written_cases (c : Char) :
    (∃ entry ∈ table.entries, entry.1 = c ∧ written table.entries c = entry.2) ∨
      ((∀ entry ∈ table.entries, entry.1 ≠ c) ∧ c ≠ '&' ∧ written table.entries c = [c]) := by
  cases found : table.entries.lookup c with
  | some entity =>
      refine Or.inl ⟨(c, entity), mem_of_lookup found, rfl, ?_⟩
      rw [written, found, Option.getD_some]
  | none =>
      refine Or.inr ⟨?_, ?_, ?_⟩
      · intro entry member same
        exact bne_iff_ne.mp (List.lookup_eq_none_iff.mp found entry member) same.symm
      · intro isAmpersand
        have known := table.ampersand
        rw [← isAmpersand, found] at known
        cases known
      · rw [written, found, Option.getD_none]

theorem unescape_written_append (c : Char) (rest : List Char) :
    unescape (written table.entries c ++ rest) = c :: unescape rest := by
  rcases table.written_cases c with ⟨entry, member, same, isEntity⟩ | ⟨-, plain, alone⟩
  · rw [isEntity, table.reads entry member, same]
  · rw [alone]
    exact unescape_cons plain rest

theorem unescape_encode_append (text rest : List Char) :
    unescape (table.encode text ++ rest) = text ++ unescape rest := by
  induction text with
  | nil => rfl
  | cons c text inductionHypothesis =>
      rw [encode_cons, List.append_assoc, unescape_written_append, inductionHypothesis,
        List.cons_append]

theorem unescape_encode (text : List Char) : unescape (table.encode text) = text := by
  have whole := table.unescape_encode_append text []
  rwa [List.append_nil, unescape, List.append_nil] at whole

/-- An encoded text has the characters of the text and those of entities. -/
theorem mem_encode {text : List Char} {c : Char} (member : c ∈ table.encode text) :
    (c ∈ text ∧ ∀ entry ∈ table.entries, entry.1 ≠ c) ∨ ∃ entry ∈ table.entries, c ∈ entry.2 := by
  rcases List.mem_flatMap.mp member with ⟨source, inText, inWritten⟩
  rcases table.written_cases source with ⟨entry, entryMember, -, isEntity⟩ | ⟨unlisted, -, alone⟩
  · rw [isEntity] at inWritten
    exact Or.inr ⟨entry, entryMember, inWritten⟩
  · rw [alone, List.mem_singleton] at inWritten
    rw [inWritten]
    exact Or.inl ⟨inText, unlisted⟩

/-- Of the characters of the table only the ampersand is left. -/
theorem notMem_encode {entry : Char × List Char} (member : entry ∈ table.entries)
    (different : entry.1 ≠ '&') (text : List Char) : entry.1 ∉ table.encode text := by
  intro left
  rcases table.mem_encode left with ⟨-, unlisted⟩ | ⟨other, otherMember, inside⟩
  · exact unlisted entry member rfl
  · exact table.clean entry member different other otherMember inside

/-- An ampersand inside what one character is written as is the first of an entity. -/
theorem entity_of_written_eq {c : Char} {before behind : List Char}
    (split : written table.entries c = before ++ '&' :: behind) :
    ∃ entry ∈ table.entries, entry.2 = '&' :: behind := by
  rcases table.written_cases c with ⟨entry, member, -, isEntity⟩ | ⟨-, plain, alone⟩
  · rcases table.begins entry member with ⟨-, once⟩
    rw [isEntity] at split
    refine ⟨entry, member, ?_⟩
    cases before with
    | nil => exact split
    | cons first before =>
        apply absurd _ once
        rw [split, List.cons_append, List.tail_cons]
        exact List.mem_append_right before List.mem_cons_self
  · rw [alone] at split
    have inside : '&' ∈ [c] := by
      rw [split]
      exact List.mem_append_right before List.mem_cons_self
    exact absurd (List.mem_singleton.mp inside).symm plain

/-- Every ampersand of an encoded text begins an entity. -/
theorem entity_of_encode_eq {text before behind : List Char}
    (split : table.encode text = before ++ '&' :: behind) :
    ∃ entry ∈ table.entries, entry.2 <+: '&' :: behind := by
  induction text generalizing before with
  | nil => simp [encode] at split
  | cons c text inductionHypothesis =>
      rw [encode_cons] at split
      rcases List.append_eq_append_iff.mp split with ⟨more, -, later⟩ | ⟨more, here, later⟩
      · exact inductionHypothesis later
      · cases more with
        | nil =>
            rw [List.nil_append] at later
            exact inductionHypothesis (later.symm.trans (List.nil_append _).symm)
        | cons first more =>
            rw [List.cons_append, List.cons.injEq] at later
            rw [← later.1] at here
            rcases table.entity_of_written_eq here with ⟨entry, member, isEntity⟩
            refine ⟨entry, member, ?_⟩
            rw [isEntity, later.2]
            exact List.cons_prefix_cons.mpr ⟨rfl, List.prefix_append more _⟩

end EntityTable

/-! ## The two escapes -/

/-- The entities of text between elements. -/
def textEntities : EntityTable where
  entries := [('&', "&amp;".toList), ('<', "&lt;".toList), ('>', "&gt;".toList)]
  ampersand := rfl
  begins := by decide
  clean := by decide
  reads := by
    intro entry member rest
    rcases List.mem_cons.mp member with same | member
    · subst same
      rfl
    · rcases List.mem_cons.mp member with same | member
      · subst same
        rfl
      · rw [List.mem_singleton.mp member]
        rfl

/-- The entities of a value between double quotes. -/
def attributeEntities : EntityTable where
  entries := textEntities.entries ++ [('"', "&quot;".toList), ('\'', "&#39;".toList)]
  ampersand := rfl
  begins := by decide
  clean := by decide
  reads := by
    intro entry member rest
    rcases List.mem_append.mp member with member | member
    · exact textEntities.reads entry member rest
    · rcases List.mem_cons.mp member with same | member
      · subst same
        rfl
      · rw [List.mem_singleton.mp member]
        rfl

theorem escapeText_eq_encode (text : List Char) : escapeText text = textEntities.encode text := by
  have noEntity : ∀ entry ∈ ([] : List (Char × List Char)), '&' ∉ entry.2 := by decide
  have ampersand := replace_flatMap_written noEntity "&amp;" text
  rw [flatMap_written_nil] at ampersand
  rw [escapeText, ampersand, replace_flatMap_written (by decide) "&lt;",
    replace_flatMap_written (by decide) "&gt;"]
  rfl

theorem escapeAttribute_eq_encode (value : List Char) :
    escapeAttribute value = attributeEntities.encode value := by
  rw [escapeAttribute, escapeText_eq_encode, EntityTable.encode,
    replace_flatMap_written (by decide) "&quot;", replace_flatMap_written (by decide) "&#39;"]
  rfl

theorem unescape_escapeAttribute_append (value rest : List Char) :
    unescape (escapeAttribute value ++ rest) = value ++ unescape rest := by
  rw [escapeAttribute_eq_encode]
  exact attributeEntities.unescape_encode_append value rest

/-- An escaped value has the characters of the value and those of entities. -/
theorem mem_escapeAttribute {value : List Char} {c : Char} (member : c ∈ escapeAttribute value) :
    c ∈ value ∨ c ∈ "&amp;&lt;&gt;&quot;&#39;".toList := by
  rw [escapeAttribute_eq_encode] at member
  rcases attributeEntities.mem_encode member with ⟨inValue, -⟩ | ⟨entry, entryMember, inEntity⟩
  · exact Or.inl inValue
  · have inside : ∀ entry ∈ attributeEntities.entries,
        entry.2 ⊆ "&amp;&lt;&gt;&quot;&#39;".toList := by decide
    exact Or.inr (inside entry entryMember inEntity)

theorem quote_notMem_escapeAttribute (value : List Char) : '"' ∉ escapeAttribute value := by
  have listed : ('"', "&quot;".toList) ∈ attributeEntities.entries := by decide
  rw [escapeAttribute_eq_encode]
  exact attributeEntities.notMem_encode listed (by decide) value

end Markup
end Artboard
