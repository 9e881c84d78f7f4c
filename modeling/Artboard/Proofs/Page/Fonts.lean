import Artboard.Page.Document
import Artboard.Proofs.Markup.Entity
import Artboard.Proofs.Page.StyleElement
import Artboard.Proofs.Page.Visited
import Artboard.Proofs.Text.Pieces

/-!
# The fonts of a page

A page asks for the font families of the text layers that its walk enters.  A text layer
is entered when its place is visited and it has no image of its own; that its markup is
dropped by a layer below, or that it is drawn as a control, makes no difference.  Each
family is asked for once, where it first comes up in preorder, and has one line in the
head of the document.
-/

namespace Artboard
namespace Page

open Node (TreePlace Order)

/-! ## Families in use -/

/-- The family of a text layer that has a setting and no image. -/
def familyAsked? (images : ImageMap) (place : TreePlace) : Option String :=
  if place.layer.shape = .text ∧ images.url? place.layer.id = none then
    place.layer.textStyle.map (·.fontFamily)
  else none

variable {images : ImageMap}

theorem familyAsked?_image {place : TreePlace} {url : String}
    (known : images.url? place.layer.id = some url) : familyAsked? images place = none := by
  simp [familyAsked?, known]

theorem familyAsked?_element {place : TreePlace} (unknown : images.url? place.layer.id = none) :
    familyAsked? images place = Style.fontFamily? place.layer := by
  by_cases isText : place.layer.shape = .text <;>
    simp [familyAsked?, Style.fontFamily?, Style.shownTextStyle?, Layer.isText, unknown, isText]

/-- A family that was asked for before is not asked for again. -/
theorem fonts_useFont {run : Run} {asked : List String} (soFar : run.fonts = asked.eraseDups)
    (family : Option String) :
    (run.useFont family).fonts = (asked ++ family.toList).eraseDups := by
  cases family with
  | none => simpa [Run.useFont] using soFar
  | some family =>
      rw [Run.useFont, soFar, Option.toList_some, List.eraseDups_append]
      by_cases known : family ∈ asked
      · simp [List.removeAll, known, soFar]
      · simp [List.removeAll, known, List.eraseDups_cons]

theorem fonts_entered {layer : Layer} {run : Run} {asked : List String}
    (soFar : run.fonts = asked.eraseDups) (parent : Option Layer) :
    (entered layer parent run).fonts = (asked ++ (Style.fontFamily? layer).toList).eraseDups := by
  apply fonts_useFont
  simpa [reached] using soFar

mutual

/-- A walk asks for the families of the visited places in preorder, behind those that were
asked for before it. -/
theorem fonts_visitFrom : (node : Node) → (path : List Nat) → (above : List Layer) →
    (run : Run) → (asked : List String) → above.all (isOpen images) = true →
    run.fonts = asked.eraseDups →
    (visit images node above.head? run).2.fonts =
      (asked ++ (visitedFrom images .preorder path above node).filterMap
        (familyAsked? images)).eraseDups
  | ⟨layer, children⟩, path, above, run, asked, opened, soFar => by
      cases visible : layer.visible with
      | false =>
          simp [visit_hidden children run visible, visitedFrom_hidden children visible, soFar]
      | true =>
          cases known : images.url? layer.id with
          | some url =>
              have noFamily : familyAsked? images ⟨path, above, ⟨layer, children⟩⟩ = none :=
                familyAsked?_image known
              rw [visit_image children run visible known, Run.fonts_register,
                visitedFrom_image children visible known opened,
                List.filterMap_cons_none noFamily, List.filterMap_nil, List.append_nil, ← soFar]
              rfl
          | none =>
              have family : familyAsked? images ⟨path, above, ⟨layer, children⟩⟩ =
                  Style.fontFamily? layer := familyAsked?_element known
              have below := fonts_visitAllFrom children path layer above 0
                (entered layer above.head? run) _ (all_isOpen_cons visible known opened)
                (fonts_entered soFar above.head?)
              rw [visit_element children run visible known, Run.fonts_register, below,
                visitedFrom_element children visible opened, Order.arrange, List.filterMap_cons,
                family, List.append_assoc]
              cases Style.fontFamily? layer <;> rfl

theorem fonts_visitAllFrom : (nodes : List Node) → (path : List Nat) → (below : Layer) →
    (above : List Layer) → (index : Nat) → (run : Run) → (asked : List String) →
    (below :: above).all (isOpen images) = true → run.fonts = asked.eraseDups →
    (visitAll images nodes below run).2.fonts =
      (asked ++ (visitedFromAll images .preorder path (below :: above) index nodes).filterMap
        (familyAsked? images)).eraseDups
  | [], _, _, _, _, run, asked, _, soFar => by
      simpa using soFar
  | node :: nodes, path, below, above, index, run, asked, opened, soFar => by
      have first := fonts_visitFrom node (path ++ [index]) (below :: above) run asked opened soFar
      have others := fonts_visitAllFrom nodes path below above (index + 1)
        (visit images node (some below) run).2 _ opened first
      rw [visitAll_cons, others, visitedFromAll_cons, List.filterMap_append, List.append_assoc]

end

theorem fonts_ofNode (images : ImageMap) (root : Node) :
    (ofNode images root).fonts =
      ((visited images .preorder root).filterMap (familyAsked? images)).eraseDups :=
  fonts_visitFrom root [] [] Run.start [] rfl rfl

theorem nodup_eraseDups (texts : List String) : texts.eraseDups.Nodup := by
  match texts with
  | [] => exact List.nodup_nil
  | text :: others =>
      rw [List.eraseDups_cons, List.nodup_cons]
      refine ⟨?_, nodup_eraseDups _⟩
      rw [List.mem_eraseDups]
      simp
termination_by texts.length
decreasing_by
  exact Nat.lt_succ_of_le (List.length_filter_le _ _)

/-! ## Links in the head -/

/-- Whether a text does not end a line. -/
def IsInLine (text : String) : Prop :=
  '\n' ∉ text.toList

instance (text : String) : Decidable (IsInLine text) :=
  inferInstanceAs (Decidable (¬_))

/-- Options with which an address stays on its line. -/
def StaysOnLine (options : PageOptions) : Prop :=
  IsInLine options.fontStylesheetUrl ∧ IsInLine options.fontAxis

instance (options : PageOptions) : Decidable (StaysOnLine options) :=
  inferInstanceAs (Decidable (_ ∧ _))

/-- The line of a font family without its end. -/
def linkLine (options : PageOptions) (family : String) : String :=
  "    <link href=\"" ++ fontUrl options family ++ "\" rel=\"stylesheet\">"

theorem linkLine_eq (options : PageOptions) (family : String) :
    linkLine options family =
      "    <link href=\"" ++ fontUrl options family ++ "\" rel=\"stylesheet\">" :=
  rfl

/-- The line that opens the style element. -/
def styleLine : List Char :=
  "    <style>".toList

def isLink (line : List Char) : Bool :=
  "    <link ".toList.isPrefixOf line

/-- The links of a document: the lines in front of the style element that begin as such. -/
def linkLines (document : String) : List String :=
  (((Text.splitAt '\n' document.toList).takeWhile (· != styleLine)).filter isLink).map String.ofList

/-- What a document has in front of its title. -/
def preamble : String :=
  "<!DOCTYPE html>\n<html lang=\"en\">\n<head>\n    <meta charset=\"UTF-8\">\n" ++
    "    <meta name=\"viewport\" content=\"width=device-width, initial-scale=1.0\">\n" ++
    "    <title>"

/-- The head of a document up to the end of its title. -/
def titlePart (title : String) : String :=
  preamble ++ String.ofList (Markup.escapeText title.toList) ++ "</title>"

/-- The style element with what follows it, without its first line. -/
def sheetPart (options : PageOptions) (page : Page) : String :=
  page.styleSheet options ++ "    </style>\n</head>\n<body>\n" ++ "    " ++ page.bodyText ++
    "\n</body>\n</html>\n"

theorem fontLine_eq (options : PageOptions) (family : String) :
    fontLine options family = linkLine options family ++ "\n" := by
  have ends : "\" rel=\"stylesheet\">\n" = "\" rel=\"stylesheet\">" ++ "\n" := by decide +kernel
  calc fontLine options family
    _ = "    <link href=\"" ++ fontUrl options family ++ ("\" rel=\"stylesheet\">" ++ "\n") :=
      congrArg ("    <link href=\"" ++ fontUrl options family ++ ·) ends
    _ = linkLine options family ++ "\n" := (String.append_assoc ..).symm

/-- A text with two lines that end in it, taken apart at the ends of these lines. -/
theorem append_regroup_lines {front title closing links opening sheet back inside body foot : String}
    {first second newline : String} (closes : closing = first ++ newline)
    (opens : opening = second ++ newline) :
    front ++ title ++ closing ++ links ++ opening ++ sheet ++ back ++ inside ++ body ++ foot =
      front ++ title ++ first ++ (newline ++ (links ++ (second ++ (newline ++
        (sheet ++ back ++ inside ++ body ++ foot))))) := by
  rw [closes, opens]
  simp only [String.append_assoc]

theorem render_eq_lines (options : PageOptions) (page : Page) :
    page.render options =
      titlePart page.title ++ ("\n" ++ (String.join (page.fonts.map (fontLine options)) ++
        ("    <style>" ++ ("\n" ++ sheetPart options page)))) := by
  have closes : "</title>\n" = "</title>" ++ "\n" := by decide +kernel
  have opens : "    <style>\n" = "    <style>" ++ "\n" := by decide +kernel
  exact append_regroup_lines closes opens

theorem toList_links (options : PageOptions) (page : Page) :
    (String.join (page.fonts.map (fontLine options))).toList =
      (page.fonts.map fun family => (linkLine options family).toList).flatMap
        (fun line => line ++ ['\n']) := by
  rw [String.toList_join, List.flatMap_map, List.flatMap_map]
  apply congrArg (page.fonts.flatMap ·)
  funext family
  rw [fontLine_eq, String.toList_append]
  rfl

theorem toList_lines {links : String} {lines : List (List Char)}
    (written : links.toList = lines.flatMap (fun line => line ++ ['\n']))
    (title style sheet : String) :
    (title ++ ("\n" ++ (links ++ (style ++ ("\n" ++ sheet))))).toList =
      title.toList ++ '\n' :: (lines.flatMap (fun line => line ++ ['\n']) ++
        (style.toList ++ '\n' :: sheet.toList)) := by
  rw [String.toList_append, String.toList_append, String.toList_append, String.toList_append,
    String.toList_append, written]
  rfl

/-- A document is its title with what comes before, its links, and the style element with
what follows, each at the start of a line. -/
theorem toList_render (options : PageOptions) (page : Page) :
    (page.render options).toList =
      (titlePart page.title).toList ++ '\n' :: ((page.fonts.map fun family =>
        (linkLine options family).toList).flatMap (fun line => line ++ ['\n']) ++
          (styleLine ++ '\n' :: (sheetPart options page).toList)) :=
  (congrArg String.toList (render_eq_lines options page)).trans
    (toList_lines (toList_links options page) _ _ _)

/-- No link and no style element begins in front of the links, whatever the title is. -/
theorem passes_titlePart (title : String) :
    ∀ letters ∈ ["link".toList, "style>".toList],
      Text.passes ('<' :: letters) (titlePart title).toList = true := by
  intro letters member
  have head : ∀ letters ∈ ["link".toList, "style>".toList], Text.passes ('<' :: letters)
      "<!DOCTYPE html>\n<html lang=\"en\">\n<head>\n    <meta charset=\"UTF-8\">\n".toList =
        true := by
    decide +kernel
  have viewport : ∀ letters ∈ ["link".toList, "style>".toList], Text.passes ('<' :: letters)
      "    <meta name=\"viewport\" content=\"width=device-width, initial-scale=1.0\">\n".toList =
        true := by
    decide +kernel
  have opens : ∀ letters ∈ ["link".toList, "style>".toList],
      Text.passes ('<' :: letters) "    <title>".toList = true := by decide +kernel
  have written : Text.passes ('<' :: letters)
      (String.ofList (Markup.escapeText title.toList)).toList = true := by
    rw [String.toList_ofList]
    exact Text.passes_of_notMem (Markup.angle_notMem_escapeText title.toList)
  have closes : ∀ letters ∈ ["link".toList, "style>".toList],
      Text.passes ('<' :: letters) "</title>".toList = true := by decide +kernel
  have front := Text.passes_toList_append
    (Text.passes_toList_append (head letters member) (viewport letters member))
    (opens letters member)
  exact Text.passes_toList_append (Text.passes_toList_append front written) (closes letters member)

theorem lines_titlePart {title : String} {line : List Char}
    (member : line ∈ Text.splitAt '\n' (titlePart title).toList) :
    line ≠ styleLine ∧ isLink line = false := by
  have inside := Text.infix_of_mem_splitAt member
  constructor
  · intro isStyle
    have begins : '<' :: "style>".toList <:+: line := ⟨"    ".toList, [], isStyle ▸ by decide⟩
    exact Text.not_infix_of_passes (List.cons_ne_nil _ _)
      (passes_titlePart title "style>".toList (by decide)) (begins.trans inside)
  · by_contra linked
    rcases List.isPrefixOf_iff_prefix.mp (Bool.not_eq_false _ ▸ linked) with ⟨rest, split⟩
    have begins : '<' :: "link".toList <:+: line := ⟨"    ".toList, ' ' :: rest, by
      rw [← split]
      rfl⟩
    exact Text.not_infix_of_passes (List.cons_ne_nil _ _)
      (passes_titlePart title "link".toList (by decide)) (begins.trans inside)

theorem prefix_toList_append (first second third : String) :
    first.toList <+: (first ++ second ++ third).toList := by
  rw [String.toList_append, String.toList_append, List.append_assoc]
  exact List.prefix_append _ _

theorem isLink_linkLine (options : PageOptions) (family : String) :
    isLink (linkLine options family).toList = true := by
  have begins : "    <link ".toList <+: "    <link href=\"".toList := by decide
  exact List.isPrefixOf_iff_prefix.mpr (begins.trans (prefix_toList_append _ _ _))

theorem IsInLine.append {first second : String} (one : IsInLine first) (other : IsInLine second) :
    IsInLine (first ++ second) := by
  rw [IsInLine, String.toList_append, List.mem_append, not_or]
  exact ⟨one, other⟩

/-- The words of a family have no line ends in them. -/
theorem isInLine_words (family : String) :
    IsInLine (String.ofList
      (Markup.escapeAttribute (Text.join ['+'] (Text.words family.toList)))) := by
  have notEntity : '\n' ∉ "&amp;&lt;&gt;&quot;&#39;".toList := by decide
  rw [IsInLine, String.toList_ofList]
  intro member
  have inWords := (Markup.mem_escapeAttribute member).resolve_right notEntity
  rcases Text.mem_join inWords with isPlus | ⟨word, wordMember, inWord⟩
  · cases List.mem_singleton.mp isPlus
  · cases Text.isBlank_of_mem_words wordMember '\n' inWord

theorem isInLine_linkLine {options : PageOptions} (stays : StaysOnLine options)
    (family : String) : IsInLine (linkLine options family) := by
  have opens : IsInLine "    <link href=\"" := by decide
  have query : IsInLine "?family=" := by decide
  have colon : IsInLine ":" := by decide
  have swap : IsInLine "&display=swap" := by decide
  have closes : IsInLine "\" rel=\"stylesheet\">" := by decide
  have asked := (((stays.1.append query).append (isInLine_words family)).append colon).append stays.2
  exact (opens.append (asked.append swap)).append closes

/-- Links behind lines that are none are the links in front of the style element. -/
theorem links_of_lines {title sheet : List Char} {lines : List (List Char)}
    (noLinks : ∀ line ∈ Text.splitAt '\n' title, line ≠ styleLine ∧ isLink line = false)
    (links : ∀ line ∈ lines, isLink line = true ∧ '\n' ∉ line) :
    ((Text.splitAt '\n' (title ++ '\n' :: (lines.flatMap (fun line => line ++ ['\n']) ++
      (styleLine ++ '\n' :: sheet)))).takeWhile (· != styleLine)).filter isLink = lines := by
  have oneStyleLine : '\n' ∉ styleLine := by decide
  have notStyle : ∀ line ∈ Text.splitAt '\n' title ++ lines, (line != styleLine) = true := by
    intro line member
    apply bne_iff_ne.mpr
    rcases List.mem_append.mp member with inTitle | inLinks
    · exact (noLinks line inTitle).1
    · intro isStyle
      have linked := (links line inLinks).1
      rw [isStyle] at linked
      cases linked
  have noneKept : (Text.splitAt '\n' title).filter isLink = [] := by
    apply List.filter_eq_nil_iff.mpr
    intro line member
    simp [(noLinks line member).2]
  have allKept := List.filter_eq_self.mpr fun line member => (links line member).1
  rw [Text.splitAt_append_separator,
    Text.splitAt_flatMap_append fun line member => (links line member).2,
    Text.splitAt_append_separator, Text.splitAt_of_notMem oneStyleLine, ← List.append_assoc,
    List.takeWhile_append_of_pos notStyle, List.singleton_append,
    List.takeWhile_cons_of_neg (by simp), List.append_nil, List.filter_append, noneKept, allKept,
    List.nil_append]

/-- The links of a document are those of its fonts. -/
theorem linkLines_render {options : PageOptions} (stays : StaysOnLine options) (page : Page) :
    linkLines (page.render options) = page.fonts.map (linkLine options) := by
  have links : ∀ line ∈ page.fonts.map fun family => (linkLine options family).toList,
      isLink line = true ∧ '\n' ∉ line := by
    intro line member
    rcases List.mem_map.mp member with ⟨family, -, same⟩
    rw [← same]
    exact ⟨isLink_linkLine options family, isInLine_linkLine stays family⟩
  rw [linkLines, toList_render, links_of_lines (fun _ => lines_titlePart) links, List.map_map]
  simp

/-- A page asks for the families of its visited places in preorder, each where it first
comes up and once only.  A place is visited when its layer and all layers below it are
drawn and no layer below it is replaced by an image, and it asks for a family when it is
a text with a setting and without an image of its own.  The document has one link for
each family, in the same order, as long as the address of the links has no line end in
it. -/
theorem fonts_exact (images : ImageMap) (root : Node) :
    (ofNode images root).fonts =
        ((visited images .preorder root).filterMap (familyAsked? images)).eraseDups ∧
      (ofNode images root).fonts.Nodup ∧
      (∀ place, place ∈ visited images .preorder root ↔
        place ∈ root.places .preorder ∧ place.layer.visible = true ∧
          ∀ below ∈ place.above, below.visible = true ∧ images.url? below.id = none) ∧
      ∀ options, StaysOnLine options →
        linkLines ((ofNode images root).render options) =
          (ofNode images root).fonts.map (linkLine options) := by
  have fonts := fonts_ofNode images root
  refine ⟨fonts, ?_, fun place => mem_visited_iff, fun options stays => linkLines_render stays _⟩
  rw [fonts]
  exact nodup_eraseDups _

/-- A board with a caption on a title, a hint in an input and a button, all of them texts,
and with a badge that is replaced by an image and a note that is not drawn. -/
def lettering : Node :=
  let text (id name family : String) : Node :=
    (Node.ofShape id name .text).withText name (TypeStyle.ofFamily family 12.0)
  (Node.ofShape "0" "Board" .frame).withChildren [
    (text "1" "Title" "Inter").withChildren [text "2" "Caption" "Open Sans"],
    (Node.ofShape "3" "Email input" .frame).withChildren [text "4" "Hint" "Lora"],
    text "5" "Send button" "Inter",
    (text "6" "Badge" "Lato").withChildren [text "7" "Label" "Roboto"],
    (text "8" "Note" "Karla").hidden]

/-- The caption and the hint have no markup of their own, but their families are asked
for. -/
theorem links_lettering :
    StaysOnLine .standard ∧
      (ofNode [("6", "badge.png")] lettering).fonts = ["Inter", "Open Sans", "Lora"] ∧
      linkLines ((ofNode [("6", "badge.png")] lettering).render .standard) =
        ["Inter", "Open Sans", "Lora"].map (linkLine .standard) := by
  have stays : StaysOnLine .standard := by decide
  rcases fonts_exact [("6", "badge.png")] lettering with ⟨fonts, -, -, links⟩
  have asked : ((visited [("6", "badge.png")] .preorder lettering).filterMap
      (familyAsked? [("6", "badge.png")])).eraseDups = ["Inter", "Open Sans", "Lora"] := by
    decide +kernel
  rw [asked] at fonts
  refine ⟨stays, fonts, ?_⟩
  rw [links .standard stays, fonts]

end Page
end Artboard
