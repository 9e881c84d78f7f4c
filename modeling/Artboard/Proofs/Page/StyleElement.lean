import Artboard.Page.Document
import Artboard.Proofs.Page.Body
import Artboard.Proofs.Text.Occurrence

/-!
# The style element of a document

The style element of a document begins at its only `<style>` and ends at the first
`</style>` behind that.  A written page has no other `<style>`: in front of the style
element and in the body, angle brackets come from tags, and no such tag is called
`style`.  So the content of the style element is the style sheet up to the first
`</style>`, and it is the whole style sheet if that has no `</style>` in it.
-/

namespace Artboard

def styleStart : String := "<style>"

def styleEnd : String := "</style>"

/-- The content of the only style element of a document. -/
def styleContent? (document : List Char) : Option (List Char) :=
  match Text.after? styleStart.toList document with
  | none => none
  | some (_, inside) =>
    match Text.after? styleEnd.toList inside with
    | none => none
    | some (count, behind) =>
      if Text.contains styleStart.toList behind then none else some (inside.take count)

namespace Markup

/-! ## Angle brackets in markup -/

theorem angle_notMem_escapeText (text : List Char) : '<' ∉ escapeText text := by
  induction text with
  | nil => exact List.not_mem_nil
  | cons c rest inductionHypothesis =>
      rw [escapeText_cons, List.mem_append, not_or]
      refine ⟨?_, inductionHypothesis⟩
      rw [escapeText_singleton]
      split_ifs with isAmpersand isLess isGreater
      · decide
      · decide
      · decide
      · rw [List.mem_singleton]
        exact fun same => isLess same.symm

theorem angle_notMem_escapeAttribute (value : List Char) : '<' ∉ escapeAttribute value := by
  induction value with
  | nil => exact List.not_mem_nil
  | cons c rest inductionHypothesis =>
      rw [escapeAttribute_cons, List.mem_append, not_or]
      refine ⟨?_, inductionHypothesis⟩
      rw [escapeAttribute_singleton]
      split_ifs with isQuote isApostrophe
      · decide
      · decide
      · exact angle_notMem_escapeText [c]

theorem angle_notMem_of_isName {name : String} (named : isName name = true) :
    '<' ∉ name.toList := by
  intro member
  have isNameChar := List.all_eq_true.mp (Bool.and_eq_true_iff.mp named).2 '<' member
  cases isNameChar

theorem angle_notMem_renderAttributes {attributes : List Attribute}
    (named : attributes.all (isName ·.name) = true) : '<' ∉ renderAttributes attributes := by
  intro member
  rcases List.mem_flatMap.mp member with ⟨entry, inAttributes, inEntry⟩
  have entryNamed := List.all_eq_true.mp named entry inAttributes
  have equals : '<' ∉ "=\"".toList := by decide
  rcases List.mem_cons.mp inEntry with isBlank | inWritten
  · cases isBlank
  · simp only [Attribute.render, List.mem_append] at inWritten
    rcases inWritten with ((inName | inEquals) | inValue) | isQuote
    · exact angle_notMem_of_isName entryNamed inName
    · exact equals inEquals
    · exact angle_notMem_escapeAttribute entry.value.toList inValue
    · cases List.mem_singleton.mp isQuote

/-- In written text the only tags are line breaks. -/
theorem passes_textWithBreaks (text : List Char) :
    Text.passes styleStart.toList (textWithBreaks text) = true := by
  rw [textWithBreaks_eq_flatMap, List.flatMap_def]
  apply Text.passes_flatten
  intro written member
  rcases List.mem_map.mp member with ⟨c, -, same⟩
  rw [← same, textChar]
  split_ifs
  · decide
  · exact Text.passes_of_notMem (angle_notMem_escapeText [c])

/-- Tags that do not begin like the tag of a style element. -/
def avoidsStyle (tags : List Tag) : Prop :=
  ∀ tag ∈ tags, Text.passes styleStart.toList ('<' :: tag.name.toList) = true

theorem passes_startTag {tag : String} {attributes : List Attribute}
    (passesTag : Text.passes styleStart.toList ('<' :: tag.toList) = true)
    (named : attributes.all (isName ·.name) = true) (close : List Char) (closes : '<' ∉ close) :
    Text.passes styleStart.toList ('<' :: tag.toList ++ renderAttributes attributes ++ close) = true := by
  apply Text.passes_append
  · exact Text.passes_append passesTag
      (Text.passes_of_notMem (angle_notMem_renderAttributes named))
  · exact Text.passes_of_notMem closes

theorem passes_endTag {tag : String} (named : isName tag = true) :
    Text.passes styleStart.toList ("</".toList ++ tag.toList ++ ['>']) = true := by
  have slash : Text.passes styleStart.toList "</".toList = true := by decide
  apply Text.passes_append
  · exact Text.passes_append slash (Text.passes_of_notMem (angle_notMem_of_isName named))
  · decide

mutual

/-- No style element begins in a written tree without tags of that name. -/
theorem passes_render : (tree : Tree) → tree.isLegible = true → avoidsStyle tree.tags →
    Text.passes styleStart.toList tree.render = true
  | .element tag attributes content, legible, avoids => by
      simp only [Tree.isLegible, Bool.and_eq_true] at legible
      rcases legible with ⟨⟨⟨named, -⟩, attributesNamed⟩, contentLegible⟩
      have passesTag := avoids ⟨tag, attributes⟩ List.mem_cons_self
      have passesContent := passes_renderForest content contentLegible fun inner member =>
        avoids inner (List.mem_cons_of_mem _ member)
      have opening := passes_startTag passesTag attributesNamed ['>'] (by decide)
      have whole := Text.passes_append (Text.passes_append opening passesContent)
        (passes_endTag named)
      rw [Tree.render]
      simpa only [List.append_assoc] using whole
  | .void tag attributes, legible, avoids => by
      rcases Bool.and_eq_true_iff.mp legible with ⟨-, attributesNamed⟩
      have passesTag := avoids ⟨tag, attributes⟩ List.mem_cons_self
      exact passes_startTag passesTag attributesNamed " />".toList (by decide)
  | .text value, _, _ => passes_textWithBreaks value.toList

theorem passes_renderForest : (trees : List Tree) → legibleForest trees = true →
    avoidsStyle (forestTags trees) → Text.passes styleStart.toList (renderForest trees) = true
  | [], _, _ => rfl
  | tree :: trees, legible, avoids => by
      simp only [legibleForest, Bool.and_eq_true] at legible
      rcases legible with ⟨⟨first, -⟩, others⟩
      apply Text.passes_append
      · apply passes_render tree first
        intro tag member
        exact avoids tag (List.mem_append_left _ member)
      · apply passes_renderForest trees others
        intro tag member
        exact avoids tag (List.mem_append_right _ member)

end

end Markup

namespace Page

/-! ## The parts of a document -/

/-- Whether no style element begins in a text, however the text goes on. -/
def LacksStyle (text : String) : Prop :=
  Text.passes styleStart.toList text.toList = true

instance (text : String) : Decidable (LacksStyle text) :=
  inferInstanceAs (Decidable (_ = true))

theorem LacksStyle.append {first second : String} (one : LacksStyle first)
    (other : LacksStyle second) : LacksStyle (first ++ second) :=
  Text.passes_toList_append one other

theorem lacksStyle_of_angle_notMem {text : List Char} (absent : '<' ∉ text) :
    LacksStyle (String.ofList text) := by
  rw [LacksStyle, String.toList_ofList]
  exact Text.passes_of_notMem absent

def prologue (page : Page) : String :=
  "<!DOCTYPE html>\n<html lang=\"en\">\n<head>\n    <meta charset=\"UTF-8\">\n" ++
    "    <meta name=\"viewport\" content=\"width=device-width, initial-scale=1.0\">\n" ++
    "    <title>" ++ String.ofList (Markup.escapeText page.title.toList) ++ "</title>\n" ++
    String.join (page.fonts.map (fontLine .standard)) ++ "    "

/-- The content of the style element as it is written. -/
def sheetText (page : Page) : String :=
  "\n" ++ page.styleSheet .standard ++ "    "

def epilogue (page : Page) : String :=
  "\n</head>\n<body>\n" ++ "    " ++ page.bodyText ++ "\n</body>\n</html>\n"

/-- A text with two tags in it, each in the middle of a line, taken apart at the tags. -/
theorem append_regroup {front indent start line sheet stop behind inside body back : String}
    {opening closing : String} (opens : opening = indent ++ (start ++ line))
    (closes : closing = indent ++ (stop ++ behind)) :
    front ++ opening ++ sheet ++ closing ++ inside ++ body ++ back =
      front ++ indent ++ (start ++ (line ++ sheet ++ indent ++
        (stop ++ (behind ++ inside ++ body ++ back)))) := by
  rw [opens, closes]
  simp only [String.append_assoc]

theorem render_eq (page : Page) :
    page.render .standard =
      prologue page ++ (styleStart ++ (sheetText page ++ (styleEnd ++ epilogue page))) := by
  have opens : "    <style>\n" = "    " ++ (styleStart ++ "\n") := by decide +kernel
  have closes : "    </style>\n</head>\n<body>\n" =
      "    " ++ (styleEnd ++ "\n</head>\n<body>\n") := by decide +kernel
  exact append_regroup opens closes

theorem lacksStyle_fontLine (family : String) : LacksStyle (fontLine .standard family) := by
  have opens : LacksStyle "    <link href=\"" := by decide +kernel
  have address : LacksStyle PageOptions.standard.fontStylesheetUrl := by decide +kernel
  have query : LacksStyle "?family=" := by decide +kernel
  have words := lacksStyle_of_angle_notMem
    (Markup.angle_notMem_escapeAttribute (Text.join ['+'] (Text.words family.toList)))
  have colon : LacksStyle ":" := by decide +kernel
  have axis : LacksStyle PageOptions.standard.fontAxis := by decide +kernel
  have swap : LacksStyle "&display=swap" := by decide +kernel
  have closes : LacksStyle "\" rel=\"stylesheet\">\n" := by decide +kernel
  have asked := (((address.append query).append words).append colon).append axis
  exact (opens.append (asked.append swap)).append closes

theorem lacksStyle_join {texts : List String} (all : ∀ text ∈ texts, LacksStyle text) :
    LacksStyle (String.join texts) := by
  rw [LacksStyle, String.toList_join, List.flatMap_def]
  apply Text.passes_flatten
  intro written member
  rcases List.mem_map.mp member with ⟨text, inTexts, same⟩
  rw [← same]
  exact all text inTexts

theorem lacksStyle_prologue (page : Page) : LacksStyle (prologue page) := by
  have head : LacksStyle
      "<!DOCTYPE html>\n<html lang=\"en\">\n<head>\n    <meta charset=\"UTF-8\">\n" := by
    decide +kernel
  have viewport : LacksStyle
      "    <meta name=\"viewport\" content=\"width=device-width, initial-scale=1.0\">\n" := by
    decide +kernel
  have opens : LacksStyle "    <title>" := by decide +kernel
  have title := lacksStyle_of_angle_notMem (Markup.angle_notMem_escapeText page.title.toList)
  have closes : LacksStyle "</title>\n" := by decide +kernel
  have fonts : LacksStyle (String.join (page.fonts.map (fontLine .standard))) := by
    apply lacksStyle_join
    intro line member
    rcases List.mem_map.mp member with ⟨family, -, same⟩
    rw [← same]
    exact lacksStyle_fontLine family
  have indent : LacksStyle "    " := by decide +kernel
  have beforeFonts := (((head.append viewport).append opens).append title).append closes
  exact (beforeFonts.append fonts).append indent

theorem avoidsStyle_depict (images : ImageMap) (root : Node) :
    Markup.avoidsStyle (Markup.forestTags (depict images 0 root)) := by
  have image : Text.passes styleStart.toList ('<' :: "img".toList) = true := by decide
  have element : ∀ name ∈ ["button", "input", "span", "div"],
      Text.passes styleStart.toList ('<' :: name.toList) = true := by decide
  intro tag member
  rw [tags_depict] at member
  rcases List.mem_map.mp member with ⟨place, -, same⟩
  rw [← same, tagOf]
  split
  · exact image
  · apply element
    cases Markup.Element.ofLayer place.layer <;> simp [Markup.Element.tag]

theorem lacksStyle_bodyText (images : ImageMap) (root : Node) :
    LacksStyle (ofNode images root).bodyText := by
  have isDepiction : (ofNode images root).body = depict images 0 root :=
    markup_visit root none Run.start
  rw [LacksStyle, bodyText, isDepiction, String.toList_ofList]
  exact Markup.passes_renderForest (depict images 0 root)
    (legibleForest_of_elements (legible_depict root 0)) (avoidsStyle_depict images root)

theorem lacksStyle_epilogue (images : ImageMap) (root : Node) :
    LacksStyle (epilogue (ofNode images root)) := by
  have front : LacksStyle "\n</head>\n<body>\n" := by decide +kernel
  have indent : LacksStyle "    " := by decide +kernel
  have back : LacksStyle "\n</body>\n</html>\n" := by decide +kernel
  exact ((front.append indent).append (lacksStyle_bodyText images root)).append back

/-! ## The content of the style element -/

theorem toList_styleStart : styleStart.toList = '<' :: "style>".toList := by decide

theorem toList_styleEnd : styleEnd.toList = '<' :: "/style>".toList := by decide

theorem not_contains_of_lacksStyle {text : String} (lacks : LacksStyle text) :
    Text.contains styleStart.toList text.toList = false := by
  have search := Text.after?_append_of_passes lacks []
  have empty : Text.after? styleStart.toList [] = none := by
    rw [toList_styleStart]
    rfl
  rw [List.append_nil, empty, Option.map_none] at search
  rw [Text.contains, search]
  rfl

/-- The search for the opening tag ends at the style element. -/
theorem styleContent?_render (images : ImageMap) (root : Node) :
    styleContent? ((ofNode images root).render .standard).toList =
      match Text.after? styleEnd.toList ((sheetText (ofNode images root)).toList ++
          (styleEnd.toList ++ (epilogue (ofNode images root)).toList)) with
      | none => none
      | some (count, behind) =>
        if Text.contains styleStart.toList behind then none
        else some (((sheetText (ofNode images root)).toList ++
          (styleEnd.toList ++ (epilogue (ofNode images root)).toList)).take count) := by
  have opens := Text.after?_self '<' "style>".toList ((sheetText (ofNode images root)).toList ++
    (styleEnd.toList ++ (epilogue (ofNode images root)).toList))
  rw [← toList_styleStart] at opens
  rw [styleContent?, render_eq, String.toList_append, String.toList_append, String.toList_append,
    String.toList_append, Text.after?_append_of_passes (lacksStyle_prologue _), opens,
    Option.map_some]

/-- A style sheet without the closing tag in it is the content of the style element. -/
theorem styleContent?_of_not_infix {images : ImageMap} {root : Node}
    (absent : ¬styleEnd.toList <:+: (sheetText (ofNode images root)).toList) :
    styleContent? ((ofNode images root).render .standard).toList =
      some (sheetText (ofNode images root)).toList := by
  have once : '<' ∉ "/style>".toList := by decide
  rw [styleContent?_render]
  rw [toList_styleEnd] at absent ⊢
  rw [Text.after?_append_of_not_infix once absent]
  dsimp only
  rw [not_contains_of_lacksStyle (lacksStyle_epilogue images root), if_neg Bool.false_ne_true,
    List.take_left]

/-- A style sheet with the closing tag in it is cut off there. -/
theorem exists_cut_of_infix {images : ImageMap} {root : Node} {content : List Char}
    (present : styleEnd.toList <:+: (sheetText (ofNode images root)).toList)
    (found : styleContent? ((ofNode images root).render .standard).toList = some content) :
    ∃ behind, (sheetText (ofNode images root)).toList = content ++ styleEnd.toList ++ behind := by
  rcases Text.after?_append_of_infix present
    (styleEnd.toList ++ (epilogue (ofNode images root)).toList) with ⟨before, behind, split, search⟩
  rw [styleContent?_render, search] at found
  dsimp only at found
  split_ifs at found
  refine ⟨behind, ?_⟩
  rw [← Option.some.inj found, split, List.append_assoc, List.append_assoc, List.append_assoc,
    List.take_left]

end Page
end Artboard
