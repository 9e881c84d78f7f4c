import Artboard.Proofs.Page.Registry
import Artboard.Proofs.Page.StyleElement
import Artboard.Proofs.Style.Declared

/-!
# The style sheet of a page

The style sheet of a page is intact when the style element of the document holds the two
rules of the page and one rule for each registered class, when a strict reader gets the
declared properties back from them, and when their strings are the font families of the
visited places.

Class names, numbers and colours cannot break a style sheet.  Font families can, because
they are written between quotes as they come from the design: a quote in a family ends the
string, and `</style>` in a family ends the style element.  For the reader that is used here
nothing else does.

The reader takes the characters between two quotes as they are, and knows the closing tag in
small letters only.  What it leaves out breaks the sheets of browsers as well: a backslash at
the end of a family takes the closing quote into the string, a line feed in a family ends the
string early, and `</STYLE>` ends the style element like `</style>`.
-/

namespace Artboard

namespace Style

/-- What a rule declares: its selector, and its properties with their values. -/
def Rule.declares (rule : Rule) : String × List (String × String) :=
  (rule.selector, rule.properties.map fun property => (property.name, property.value))

end Style

namespace Page

open Node (TreePlace Order placesFrom placesFromAll)

/-- The two rules that every page begins with. -/
def pageRules : List Style.Rule :=
  [⟨"body", [⟨"margin", "0", []⟩, ⟨"padding", "0", []⟩, ⟨"background-color", "black", []⟩]⟩,
    ⟨"*", [⟨"box-sizing", "border-box", []⟩]⟩]

/-- The style sheet of a page is what its document has in its style element: the rules of
the page, then the registered rules, each with the declared properties and with the font
family of its place as the only string. -/
def StyleSheetIntact (images : ImageMap) (root : Node) : Prop :=
  ∃ content sheet,
    styleContent? ((ofNode images root).render .standard).toList = some content ∧
    Style.read? content = some sheet ∧
    sheet.map Style.Rule.declares = pageRules.map Style.Rule.declares ++
      (ofNode images root).rules.map (fun rule => ("." ++ rule.1, rule.2.properties)) ∧
    sheet.map Style.Rule.strings = pageRules.map Style.Rule.strings ++
      (visited images .postorder root).map
        (fun place => (Style.fontFamily? place.layer).toList)

variable {images : ImageMap} {root : Node}

/-! ## Reading the sheet -/

def placeRule (images : ImageMap) (root : Node) (place : TreePlace) : Style.Rule where
  selector := "." ++ Markup.className (number images root place) place.layer.name
  properties := Style.declared place.layer place.parent

def placeRules (images : ImageMap) (root : Node) : List Style.Rule :=
  (visited images .postorder root).map (placeRule images root)

/-- A class is a plain selector, whatever its layer is called. -/
theorem isPlain_selector (counter : Nat) (name : String) :
    Style.IsPlain ("." ++ Markup.className counter name) := by
  rcases Markup.isClassName_className counter name with
    ⟨digits, rest, written, -, isDigit, isRest⟩
  have split : ("." ++ Markup.className counter name).toList =
      '.' :: ("node-".toList ++ digits ++ '-' :: rest) := by
    rw [String.toList_append, written]
    rfl
  have prefixed : "node-".toList.all Style.isWordChar = true := by decide
  apply Style.isPlain_of_isWord
  apply Style.isWord_of_chars
  · rw [split]
    exact List.cons_ne_nil _ _
  · intro c member
    rw [split, List.mem_cons, List.mem_append, List.mem_append, List.mem_cons] at member
    rcases member with isDot | (inPrefix | inDigits) | isHyphen | inRest
    · rw [isDot]
      rfl
    · exact List.all_eq_true.mp prefixed c inPrefix
    · simp [Style.isWordChar, Char.isAlphanum, isDigit c inDigits]
    · rw [isHyphen]
      rfl
    · rcases isRest c inRest with alphanumeric | isHyphen
      · simp [Style.isWordChar, alphanumeric]
      · rw [isHyphen]
        rfl

theorem isLegible_placeRule {place : TreePlace}
    (noQuote : ∀ family, Style.fontFamily? place.layer = some family → '\'' ∉ family.toList) :
    (placeRule images root place).IsLegible := by
  have plain := isPlain_selector (number images root place) place.layer.name
  exact ⟨plain.unmarked, plain.tight, Style.isLegible_of_mem_declared noQuote⟩

theorem toList_render_declaration (layer : Layer) (parent : Option Layer) :
    (Style.declaration layer parent).render.toList =
      Style.writtenAll (Style.declared layer parent) := by
  have colon : ": ".toList = [':', ' '] := String.toList_ofList
  rw [Declaration.render, String.toList_intercalate, Style.writtenAll, Style.declared,
    List.map_map, List.map_map]
  refine congrArg (List.intercalate "; ".toList) (List.map_congr_left ?_)
  intro entry _
  change (entry.1 ++ ": " ++ entry.2).toList = entry.1.toList ++ ([':', ' '] ++ entry.2.toList)
  rw [String.toList_append, String.toList_append, colon, List.append_assoc]

theorem line_regroup {indent dot name opening block close newline front back : List Char}
    (fronts : front = indent ++ dot) (backs : back = close ++ newline) :
    front ++ name ++ opening ++ block ++ back =
      indent ++ (dot ++ name ++ opening ++ block ++ close) ++ newline := by
  rw [fronts, backs]
  simp only [List.append_assoc]

theorem toList_ruleLine (place : TreePlace) :
    (ruleLine (ruleOf (number images root place) place)).toList =
      (placeRule images root place).line := by
  have fronts : "        .".toList = Style.indent ++ ".".toList := by decide
  have backs : " \x7d\n".toList = " \x7d".toList ++ ['\n'] := by decide
  rw [ruleLine, String.toList_append, String.toList_append, String.toList_append,
    String.toList_append, ruleOf, toList_render_declaration, Style.Rule.line,
    Style.Rule.written, placeRule, String.toList_append]
  exact line_regroup fronts backs

theorem run_pageRules :
    Style.Reader.start.run ("\n" ++ backgroundLine .standard ++ boxLine).toList =
      ⟨pageRules, .selector ['\n']⟩ := by
  decide +kernel

/-- The sheet is the lines of the page and those of the visited places. -/
theorem toList_sheetText (images : ImageMap) (root : Node) :
    (sheetText (ofNode images root)).toList =
      ("\n" ++ backgroundLine .standard ++ boxLine).toList ++
        (placeRules images root).flatMap Style.Rule.line ++ "    ".toList := by
  have grouped : sheetText (ofNode images root) =
      "\n" ++ backgroundLine .standard ++ boxLine ++
        String.join ((ofNode images root).rules.map ruleLine) ++ "    " := by
    rw [sheetText, styleSheet, ← String.append_assoc, ← String.append_assoc]
  have rules : (ofNode images root).rules = registry images root := rules_visit images root
  have lines : ((registry images root).map ruleLine).flatMap String.toList =
      (placeRules images root).flatMap Style.Rule.line := by
    rw [registry, placeRules, List.flatMap_map, List.flatMap_map, List.flatMap_map]
    simp only [toList_ruleLine]
  rw [grouped, rules, String.toList_append, String.toList_append, String.toList_join, lines]

/-- If no family has a quote in it, the sheet is read as the rules of the page and those of
the visited places. -/
theorem read?_sheetText
    (noQuote : ∀ place ∈ visited images .postorder root, ∀ family,
      Style.fontFamily? place.layer = some family → '\'' ∉ family.toList) :
    Style.read? (sheetText (ofNode images root)).toList =
      some (pageRules ++ placeRules images root) := by
  have unmarked : Style.isUnmarked "    ".toList = true := by decide
  have blank : Style.strip (['\n'] ++ "    ".toList) = [] := by decide
  have legible : ∀ rule ∈ placeRules images root, rule.IsLegible := by
    intro rule member
    rcases List.mem_map.mp member with ⟨place, visited, same⟩
    rw [← same]
    exact isLegible_placeRule (noQuote place visited)
  rw [Style.read?, toList_sheetText, Style.Reader.run_append, Style.Reader.run_append,
    run_pageRules, Style.Reader.run_lines legible, Style.Reader.run_selector unmarked,
    Style.Reader.rules?]
  dsimp only
  rw [if_pos blank]

/-! ## Properties and strings -/

theorem declares_placeRules (images : ImageMap) (root : Node) :
    (placeRules images root).map Style.Rule.declares =
      (ofNode images root).rules.map fun rule => ("." ++ rule.1, rule.2.properties) := by
  have rules : (ofNode images root).rules = registry images root := rules_visit images root
  rw [rules, placeRules, registry, List.map_map, List.map_map]
  apply List.map_congr_left
  intro place _
  have same : (Style.declared place.layer place.parent).map
      (fun property => (property.name, property.value)) =
        (Style.declaration place.layer place.parent).properties := by
    rw [Style.declared, List.map_map]
    exact List.map_id _
  exact congrArg (Prod.mk _) same

theorem strings_placeRules (images : ImageMap) (root : Node) :
    (placeRules images root).map Style.Rule.strings =
      (visited images .postorder root).map
        fun place => (Style.fontFamily? place.layer).toList := by
  rw [placeRules, List.map_map]
  apply List.map_congr_left
  intro place _
  exact Style.strings_declared place.layer place.parent

/-- A string of the sheet is the font family of a visited place. -/
theorem exists_place_of_mem_strings {string : String}
    (member : string ∈ (pageRules ++ placeRules images root).flatMap Style.Rule.strings) :
    ∃ place ∈ visited images .postorder root, Style.fontFamily? place.layer = some string := by
  have none : pageRules.flatMap Style.Rule.strings = [] := by decide
  rw [List.flatMap_append, none, List.nil_append, List.flatMap_def, strings_placeRules] at member
  rcases List.mem_flatten.mp member with ⟨strings, inPlaces, inStrings⟩
  rcases List.mem_map.mp inPlaces with ⟨place, visited, same⟩
  rw [← same] at inStrings
  exact ⟨place, visited, Option.mem_toList.mp inStrings⟩

theorem family_infix_sheetText {place : TreePlace} {family : String}
    (visits : place ∈ visited images .postorder root)
    (asked : Style.fontFamily? place.layer = some family) :
    family.toList <:+: (sheetText (ofNode images root)).toList := by
  rcases Style.exists_property_of_family place.parent asked with ⟨property, declared, inValue⟩
  have inSheet : placeRule images root place ∈ placeRules images root :=
    List.mem_map_of_mem visits
  have inLines := inValue.trans (Style.infix_lines declared inSheet)
  rw [toList_sheetText]
  exact List.infix_append_of_infix_left (List.infix_append_of_infix_right inLines)

/-! ## When the sheet is intact -/

/-- In an intact sheet no family has a quote in it, because no string of a sheet does. -/
theorem quote_notMem_of_intact (intact : StyleSheetIntact images root) :
    ∀ place ∈ visited images .postorder root, ∀ family,
      Style.fontFamily? place.layer = some family → '\'' ∉ family.toList := by
  intro place visits family asked
  rcases intact with ⟨content, sheet, -, reads, -, strings⟩
  have inMap : (Style.fontFamily? place.layer).toList ∈ sheet.map Style.Rule.strings := by
    rw [strings]
    exact List.mem_append_right _ (List.mem_map_of_mem visits)
  apply Style.quote_notMem_of_read? reads
  rw [List.flatMap_def]
  exact List.mem_flatten.mpr ⟨_, inMap, Option.mem_toList.mpr asked⟩

/-- In an intact sheet no family has the closing tag in it: the content of the style
element would end in the middle of a string. -/
theorem styleEnd_not_infix_of_intact (intact : StyleSheetIntact images root) :
    ∀ place ∈ visited images .postorder root, ∀ family,
      Style.fontFamily? place.layer = some family → ¬styleEnd.toList <:+: family.toList := by
  intro place visits family asked present
  have whole := read?_sheetText (quote_notMem_of_intact intact)
  rcases intact with ⟨content, sheet, found, reads, -, -⟩
  rcases exists_cut_of_infix (present.trans (family_infix_sheetText visits asked)) found with
    ⟨behind, cut⟩
  rw [cut, toList_styleEnd, List.append_assoc, List.cons_append] at whole
  -- The whole sheet is read, so the reader is in a string where the content ends.
  rw [Style.read?_eq_none_of_angle whole] at reads
  cases reads

/-- When no family has a quote or the closing tag in it the sheet is intact. -/
theorem intact_of_families
    (noQuote : ∀ place ∈ visited images .postorder root, ∀ family,
      Style.fontFamily? place.layer = some family → '\'' ∉ family.toList)
    (noEnd : ∀ place ∈ visited images .postorder root, ∀ family,
      Style.fontFamily? place.layer = some family → ¬styleEnd.toList <:+: family.toList) :
    StyleSheetIntact images root := by
  have whole := read?_sheetText noQuote
  have absent : ¬styleEnd.toList <:+: (sheetText (ofNode images root)).toList := by
    intro present
    rw [toList_styleEnd] at present
    rcases Style.exists_string_of_infix whole (by decide) present with ⟨string, member, inside⟩
    rcases exists_place_of_mem_strings member with ⟨place, visits, asked⟩
    rw [← toList_styleEnd] at inside
    exact noEnd place visits string asked inside
  refine ⟨_, _, styleContent?_of_not_infix absent, whole, ?_, ?_⟩
  · rw [List.map_append, declares_placeRules]
  · rw [List.map_append, strings_placeRules]

/-- The style sheet of a page is intact exactly when no font family of a visited place has
a quote or the closing tag of the style element in it.  Nothing else in a design reaches
the style sheet in a way that could break it for the reader. -/
theorem styleSheetIntact_iff (images : ImageMap) (root : Node) :
    StyleSheetIntact images root ↔
      ∀ place ∈ visited images .postorder root, ∀ family,
        Style.fontFamily? place.layer = some family →
          '\'' ∉ family.toList ∧ ¬styleEnd.toList <:+: family.toList := by
  constructor
  · intro intact place visits family asked
    constructor
    · exact quote_notMem_of_intact intact place visits family asked
    · exact styleEnd_not_infix_of_intact intact place visits family asked
  · intro clean
    apply intact_of_families
    · intro place visits family asked
      exact (clean place visits family asked).1
    · intro place visits family asked
      exact (clean place visits family asked).2

/-- A text in a family whose name ends the string, the declaration, the rule and the style
element. -/
def label : Node :=
  (Node.ofShape "1" "Label" .text).withText "Hi"
    (TypeStyle.ofFamily "Inter'; \x7d body \x7b display: none; \x7d </style>" 16.0)

/-- The style sheet of such a text is not intact. -/
theorem not_styleSheetIntact_label : ¬StyleSheetIntact [] label := by
  intro intact
  have visits : (⟨[], [], label⟩ : TreePlace) ∈ visited [] .postorder label :=
    List.mem_singleton.mpr rfl
  have hasQuote : '\'' ∈ "Inter'; \x7d body \x7b display: none; \x7d </style>".toList := by decide
  exact quote_notMem_of_intact intact ⟨[], [], label⟩ visits _ rfl hasQuote

end Page
end Artboard
