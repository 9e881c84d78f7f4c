import Artboard.Proofs.Markup.Entity
import Artboard.Proofs.Text.Separator

/-!
# Escapes are exact

An escape is one pass over the text with a table of entities, although it is made of
replacements that each go over what the one before has written.  It leaves nothing of what
the table is there to hide, every ampersand is the first of an entity, and reading the
entities gives the text back.  A text with line breaks comes apart at them into its escaped
lines, because no escaped line has an angle bracket in it: a line break that the text itself
spells out is not one.
-/

namespace Artboard
namespace Markup

/-- Whether an escape writes exactly what is in a table as entities. -/
structure IsExactEscape (table : EntityTable) (escape : List Char → List Char) : Prop where
  onePass : ∀ text, escape text = text.flatMap (written table.entries)
  hides : ∀ text, ∀ entry ∈ table.entries, entry.1 ≠ '&' → entry.1 ∉ escape text
  /-- Whatever begins with an ampersand begins with an entity. -/
  ampersands : ∀ text before behind, escape text = before ++ '&' :: behind →
    ∃ entry ∈ table.entries, entry.2 <+: '&' :: behind
  reads : ∀ text, unescape (escape text) = text

theorem EntityTable.isExactEscape_encode (table : EntityTable) :
    IsExactEscape table table.encode where
  onePass _ := rfl
  hides text _ member different := table.notMem_encode member different text
  ampersands _ _ _ split := table.entity_of_encode_eq split
  reads := table.unescape_encode

theorem isExactEscape_escapeText : IsExactEscape textEntities escapeText := by
  rw [funext escapeText_eq_encode]
  exact textEntities.isExactEscape_encode

theorem isExactEscape_escapeAttribute : IsExactEscape attributeEntities escapeAttribute := by
  rw [funext escapeAttribute_eq_encode]
  exact attributeEntities.isExactEscape_encode

/-- The pieces of a text between its line breaks. -/
def splitAtBreaks (text : List Char) : List (List Char) :=
  Text.splitAtText '<' "br>".toList text

theorem splitAtBreaks_textWithBreaks (text : List Char) :
    splitAtBreaks (textWithBreaks text) = (Text.splitAt '\n' text).map escapeText := by
  have bracket : ('<', "&lt;".toList) ∈ textEntities.entries := by decide
  have lines : (Text.splitAt '\n' text).map escapeText ≠ [] := by
    rw [ne_eq, List.map_eq_nil_iff]
    exact Text.splitAt_ne_nil '\n' text
  apply Text.splitAtText_join (by decide) lines
  intro line member
  rcases List.mem_map.mp member with ⟨source, -, same⟩
  rw [← same]
  exact isExactEscape_escapeText.hides source _ bracket (by decide)

theorem map_unescape_splitAtBreaks (text : List Char) :
    (splitAtBreaks (textWithBreaks text)).map unescape = Text.splitAt '\n' text := by
  have reads : unescape ∘ escapeText = id := funext isExactEscape_escapeText.reads
  rw [splitAtBreaks_textWithBreaks, List.map_map, reads, List.map_id]

/-- Whether texts without line ends make up a text with single line ends between them. -/
structure AreLines (text : List Char) (lines : List (List Char)) : Prop where
  any : lines ≠ []
  whole : Text.join ['\n'] lines = text
  within : ∀ line ∈ lines, '\n' ∉ line

theorem areLines_splitAt (text : List Char) : AreLines text (Text.splitAt '\n' text) where
  any := Text.splitAt_ne_nil '\n' text
  whole := Text.join_splitAt '\n' text
  within _ member := Text.notMem_of_mem_splitAt member

/-- Text and attribute values are escaped exactly by their tables, and the pieces of a text
between its line breaks, read back, are its lines. -/
theorem escapes_exact :
    IsExactEscape textEntities escapeText ∧ IsExactEscape attributeEntities escapeAttribute ∧
      ∀ text, AreLines text ((splitAtBreaks (textWithBreaks text)).map unescape) := by
  refine ⟨isExactEscape_escapeText, isExactEscape_escapeAttribute, ?_⟩
  intro text
  rw [map_unescape_splitAtBreaks]
  exact areLines_splitAt text

/-- A line break that a text spells out and an entity in it are kept apart from those that are
written for it. -/
example : textWithBreaks "<br>&lt;\n".toList = "&lt;br&gt;&amp;lt;<br>".toList := by decide

end Markup
end Artboard
