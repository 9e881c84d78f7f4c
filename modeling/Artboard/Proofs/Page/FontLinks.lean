import Mathlib.Data.List.TakeWhile
import Artboard.Proofs.Page.Fonts
import Artboard.Proofs.Url.Form

/-!
# What the links of a page ask for

A link asks for the name of a family, which is its words with single blanks in between.
The address has plus signs for these blanks, and everything else in the name is escaped
for markup but not for a query.  So a name is asked for as it is exactly when nothing in
it has a meaning in a query.

Families are told apart before their blanks are evened out, so two families of one name
have the same link twice.
-/

namespace Artboard
namespace Page

/-! ## Names -/

/-- The words of a family with single blanks in between. -/
def familyName (family : String) : String :=
  String.ofList (Text.join [' '] (Text.words family.toList))

/-- The name of a family with plus signs for blanks. -/
def writtenName (family : String) : List Char :=
  Text.join ['+'] (Text.words family.toList)

/-- A name in which nothing has a meaning in a query. -/
structure IsPlainName (name : List Char) : Prop where
  noAmpersand : '&' ∉ name
  noSign : '#' ∉ name
  noPlus : '+' ∉ name
  noEscape : Url.hasEscape name = false

theorem writtenName_eq (family : String) :
    writtenName family =
      (familyName family).toList.map fun c => if c = ' ' then '+' else c := by
  rw [familyName, String.toList_ofList, Text.map_join]
  · rfl
  · intro word member c inWord
    have letter := Text.isBlank_of_mem_words member c inWord
    apply if_neg
    intro isBlank
    rw [isBlank] at letter
    cases letter

/-- Marks other than blanks and plus signs are written where they are. -/
theorem mem_writtenName_iff {family : String} {mark : Char} (notBlank : mark ≠ ' ')
    (notPlus : mark ≠ '+') : mark ∈ writtenName family ↔ mark ∈ (familyName family).toList := by
  rw [writtenName_eq, List.mem_map]
  constructor
  · rintro ⟨c, member, same⟩
    split_ifs at same with isBlank
    · exact absurd same.symm notPlus
    · exact same ▸ member
  · intro member
    exact ⟨mark, member, if_neg notBlank⟩

theorem withBlanks_writtenName {family : String} (noPlus : '+' ∉ (familyName family).toList) :
    Url.withBlanks (writtenName family) = (familyName family).toList := by
  rw [writtenName_eq, Url.withBlanks, List.map_map]
  conv_rhs => rw [← List.map_id (familyName family).toList]
  apply List.map_congr_left
  intro c member
  have notPlus : c ≠ '+' := fun isPlus => noPlus (isPlus ▸ member)
  by_cases isBlank : c = ' '
  · simp [isBlank]
  · simp [isBlank, notPlus]

/-! ## Addresses -/

/-- What stands behind the name of a family in the value that is asked for. -/
def axisPart : List Char :=
  ':' :: PageOptions.standard.fontAxis.toList

/-- The address in a link. -/
def href? (line : String) : Option (List Char) :=
  (Text.after? "href=\"".toList line.toList).map fun found => found.2.takeWhile (· != '"')

/-- The names and values in the address of a link, once its entities are read. -/
def linkParameters? (line : String) : Option (List (String × String)) :=
  (href? line).map fun address => Url.parameters (Markup.unescape address)

/-- What the link of a family is meant to ask for. -/
def wanted (family : String) : List (String × String) :=
  [("family", familyName family ++ ":" ++ PageOptions.standard.fontAxis), ("display", "swap")]

/-- The query of the link of a family. -/
def writtenQuery (family : String) : List Char :=
  "family".toList ++ '=' :: (writtenName family ++ axisPart ++ '&' :: "display=swap".toList)

theorem writtenQuery_eq (family : String) :
    writtenQuery family =
      "family".toList ++ '=' :: (writtenName family ++ axisPart ++ '&' :: "display=swap".toList) :=
  rfl

theorem toList_append_three (front middle back : String) :
    (front ++ middle ++ back).toList = front.toList ++ (middle.toList ++ back.toList) := by
  simp only [String.toList_append, List.append_assoc]

theorem toList_append_five (front middle colon axis swap : String) :
    (front ++ middle ++ colon ++ axis ++ swap).toList =
      front.toList ++ (middle.toList ++ (colon ++ axis ++ swap).toList) := by
  simp only [String.toList_append, List.append_assoc]

theorem toList_fontUrl (family : String) :
    (fontUrl .standard family).toList =
      (PageOptions.standard.fontStylesheetUrl ++ "?family=").toList ++
        (Markup.escapeAttribute (writtenName family) ++
          (":" ++ PageOptions.standard.fontAxis ++ "&display=swap").toList) := by
  have regrouped := toList_append_five (PageOptions.standard.fontStylesheetUrl ++ "?family=")
    (String.ofList (Markup.escapeAttribute (writtenName family))) ":"
    PageOptions.standard.fontAxis "&display=swap"
  rw [String.toList_ofList] at regrouped
  exact regrouped

theorem unescape_fontUrl (family : String) :
    Markup.unescape (fontUrl .standard family).toList =
      PageOptions.standard.fontStylesheetUrl.toList ++ '?' :: writtenQuery family := by
  have plain : '&' ∉ (PageOptions.standard.fontStylesheetUrl ++ "?family=").toList := by
    decide +kernel
  have front : (PageOptions.standard.fontStylesheetUrl ++ "?family=").toList =
      PageOptions.standard.fontStylesheetUrl.toList ++ '?' :: ("family".toList ++ ['=']) := by
    decide +kernel
  have back : Markup.unescape (":" ++ PageOptions.standard.fontAxis ++ "&display=swap").toList =
      axisPart ++ '&' :: "display=swap".toList := by decide +kernel
  have name := Markup.unescape_escapeAttribute_append (writtenName family)
    (":" ++ PageOptions.standard.fontAxis ++ "&display=swap").toList
  have whole := Markup.unescape_append_of_notMem plain (Markup.escapeAttribute (writtenName family) ++
    (":" ++ PageOptions.standard.fontAxis ++ "&display=swap").toList)
  rw [name, back] at whole
  rw [toList_fontUrl, whole, writtenQuery_eq]
  apply (congrArg (· ++ (writtenName family ++ (axisPart ++ '&' :: "display=swap".toList)))
    front).trans
  simp only [List.append_assoc, List.cons_append, List.nil_append]

theorem quote_notMem_fontUrl (family : String) : '"' ∉ (fontUrl .standard family).toList := by
  have front : '"' ∉ (PageOptions.standard.fontStylesheetUrl ++ "?family=").toList := by
    decide +kernel
  have back : '"' ∉ (":" ++ PageOptions.standard.fontAxis ++ "&display=swap").toList := by
    decide +kernel
  rw [toList_fontUrl, List.mem_append, List.mem_append, not_or, not_or]
  exact ⟨front, Markup.quote_notMem_escapeAttribute _, back⟩

theorem after?_href {address : List Char} (noQuote : '"' ∉ address) (rest : List Char) :
    (Text.after? "href=\"".toList ("    <link ".toList ++
      ('h' :: "ref=\"".toList ++ (address ++ '"' :: rest)))).map
        (fun found => found.2.takeWhile (· != '"')) = some address := by
  have opens : "href=\"".toList = 'h' :: "ref=\"".toList := by decide
  have passesOpening : Text.passes "href=\"".toList "    <link ".toList = true := by decide
  rw [Text.after?_append_of_passes passesOpening, opens, Text.after?_self]
  simp only [Option.map_some]
  rw [Text.takeWhile_append_of_notMem noQuote, List.takeWhile_cons_of_neg (by decide),
    List.append_nil]

theorem href?_linkLine (family : String) :
    href? (linkLine .standard family) = some (fontUrl .standard family).toList := by
  have opens : "    <link href=\"".toList = "    <link ".toList ++ 'h' :: "ref=\"".toList := by
    decide
  have closes : "\" rel=\"stylesheet\">".toList = '"' :: " rel=\"stylesheet\">".toList := by decide
  have line : (linkLine .standard family).toList = "    <link ".toList ++
      ('h' :: "ref=\"".toList ++ ((fontUrl .standard family).toList ++
        '"' :: " rel=\"stylesheet\">".toList)) := by
    calc (linkLine .standard family).toList
      _ = "    <link href=\"".toList ++ ((fontUrl .standard family).toList ++
          "\" rel=\"stylesheet\">".toList) := toList_append_three _ _ _
      _ = ("    <link ".toList ++ 'h' :: "ref=\"".toList) ++
          ((fontUrl .standard family).toList ++ '"' :: " rel=\"stylesheet\">".toList) :=
        congrArg₂ (fun front back => front ++ ((fontUrl .standard family).toList ++ back)) opens
          closes
      _ = _ := List.append_assoc ..
  rw [href?, line]
  exact after?_href (quote_notMem_fontUrl family) _

theorem linkParameters?_linkLine (family : String) :
    linkParameters? (linkLine .standard family) =
      some (Url.formPairs ((writtenQuery family).takeWhile (· != '#'))) := by
  have noMark : '?' ∉ PageOptions.standard.fontStylesheetUrl.toList := by decide +kernel
  have noSign : '#' ∉ PageOptions.standard.fontStylesheetUrl.toList := by decide +kernel
  rw [linkParameters?, href?_linkLine, Option.map_some, unescape_fontUrl,
    Url.parameters_append noMark noSign]

/-! ## What is asked for -/

variable {family : String}

/-- A mark is looked for behind the name of the parameter. -/
theorem takeWhile_family {mark : Char} (notInName : mark ∉ "family=".toList) (text : List Char) :
    ("family".toList ++ '=' :: text).takeWhile (· != mark) =
      "family".toList ++ '=' :: text.takeWhile (· != mark) := by
  have name : "family=".toList = "family".toList ++ ['='] := by decide
  rw [name] at notInName
  have whole := Text.takeWhile_append_of_notMem notInName text
  rw [List.append_assoc, List.append_assoc] at whole
  exact whole

theorem pairOf_family (text : List Char) :
    Url.pairOf ("family".toList ++ '=' :: text) =
      ("family", String.ofList (Url.formDecode text)) := by
  have name : String.ofList (Url.formDecode "family".toList) = "family" := by decide +kernel
  rw [Url.pairOf_append (by decide), name]

theorem toList_wanted (family : String) :
    (familyName family ++ ":" ++ PageOptions.standard.fontAxis).toList =
      (familyName family).toList ++ axisPart :=
  toList_append_three _ _ _

theorem hasEscape_append_axisPart (name : List Char) :
    Url.hasEscape (name ++ axisPart) = Url.hasEscape name := by
  have plain : Url.hasEscape PageOptions.standard.fontAxis.toList = false := by decide +kernel
  rw [axisPart, Url.hasEscape_append_cons (by decide) (by decide), plain, Bool.or_false]

theorem withBlanks_append_axisPart (text : List Char) :
    Url.withBlanks (text ++ axisPart) = Url.withBlanks text ++ axisPart := by
  have plain : Url.withBlanks axisPart = axisPart := by decide +kernel
  rw [Url.withBlanks, List.map_append, ← Url.withBlanks, ← Url.withBlanks, plain]

/-- A plain name is asked for as it is. -/
theorem linkParameters?_of_isPlainName (plain : IsPlainName (familyName family).toList) :
    linkParameters? (linkLine .standard family) = some (wanted family) := by
  have noAmpersand : '&' ∉ writtenName family :=
    fun member => plain.noAmpersand ((mem_writtenName_iff (by decide) (by decide)).mp member)
  have noSign : '#' ∉ writtenName family :=
    fun member => plain.noSign ((mem_writtenName_iff (by decide) (by decide)).mp member)
  have whole : (writtenQuery family).takeWhile (· != '#') =
      ("family".toList ++ '=' :: (writtenName family ++ axisPart)) ++
        '&' :: "display=swap".toList := by
    have back : (axisPart ++ '&' :: "display=swap".toList).takeWhile (· != '#') =
        axisPart ++ '&' :: "display=swap".toList := by decide +kernel
    rw [writtenQuery_eq, takeWhile_family (by decide), List.append_assoc,
      Text.takeWhile_append_of_notMem noSign, back]
    simp only [List.append_assoc, List.cons_append]
  have onePiece : '&' ∉ "family".toList ++ '=' :: (writtenName family ++ axisPart) := by
    have name : '&' ∉ "family".toList := by decide
    have axis : '&' ∉ axisPart := by decide
    exact List.not_mem_append name
      (List.not_mem_cons_of_ne_of_not_mem (by decide) (List.not_mem_append noAmpersand axis))
  have swap : Url.formPairs "display=swap".toList = [("display", "swap")] := by decide +kernel
  have read : Url.withBlanks (writtenName family ++ axisPart) =
      (familyName family).toList ++ axisPart := by
    rw [withBlanks_append_axisPart, withBlanks_writtenName plain.noPlus]
  have value : Url.formDecode (writtenName family ++ axisPart) =
      (familyName family).toList ++ axisPart := by
    rw [Url.formDecode_of_not_hasEscape, read]
    rw [read, hasEscape_append_axisPart]
    exact plain.noEscape
  rw [linkParameters?_linkLine, whole, Url.formPairs_append onePiece (by simp), pairOf_family,
    swap, value, ← toList_wanted, String.ofList_toList]
  rfl

/-- Where the value that is asked for ends in a query. -/
def isInValue (c : Char) : Bool :=
  c != '#' && c != '&'

theorem takeWhile_writtenQuery (family : String) :
    ((writtenQuery family).takeWhile (· != '#')).takeWhile (· != '&') =
      "family".toList ++ '=' :: (writtenName family ++ axisPart).takeWhile isInValue := by
  have both : ∀ text : List Char, (text.takeWhile (· != '#')).takeWhile (· != '&') =
      text.takeWhile isInValue := by
    intro text
    rw [List.takeWhile_takeWhile]
    congr 1
    funext c
    apply Bool.eq_iff_iff.mpr
    simp [isInValue, and_comm]
  rw [writtenQuery_eq, takeWhile_family (by decide), takeWhile_family (by decide), both,
    Text.takeWhile_append_cons (by decide)]

/-- Whatever the name is, the first parameter is the family, with the value up to the first
mark that ends it. -/
theorem exists_linkParameters?_eq (family : String) :
    ∃ others, linkParameters? (linkLine .standard family) =
      some (("family", String.ofList
        (Url.formDecode ((writtenName family ++ axisPart).takeWhile isInValue))) :: others) := by
  have first := takeWhile_writtenQuery family
  have notEmpty : ((writtenQuery family).takeWhile (· != '#')).takeWhile (· != '&') ≠ [] := by
    rw [first]
    exact List.append_ne_nil_of_right_ne_nil _ (List.cons_ne_nil _ _)
  rcases Url.exists_formPairs_eq notEmpty with ⟨others, pairs⟩
  rw [first, pairOf_family] at pairs
  exact ⟨others, by rw [linkParameters?_linkLine, pairs]⟩

/-- A value that is read as a text of its whole length does not end before its end. -/
theorem takeWhile_isInValue_of_length
    (long : (writtenName family ++ axisPart).length ≤ (Url.formDecode
      ((writtenName family ++ axisPart).takeWhile isInValue)).length) :
    (writtenName family ++ axisPart).takeWhile isInValue = writtenName family ++ axisPart := by
  have begins := List.takeWhile_prefix isInValue (l := writtenName family ++ axisPart)
  have bound := Url.length_formDecode ((writtenName family ++ axisPart).takeWhile isInValue)
  have atMost := begins.length_le
  apply begins.eq_of_length
  omega

/-- A name that is asked for as it is, is plain. -/
theorem isPlainName_of_linkParameters?
    (asked : linkParameters? (linkLine .standard family) = some (wanted family)) :
    IsPlainName (familyName family).toList := by
  rcases exists_linkParameters?_eq family with ⟨others, pairs⟩
  have value : Url.formDecode ((writtenName family ++ axisPart).takeWhile isInValue) =
      (familyName family).toList ++ axisPart := by
    rw [pairs, wanted, Option.some.injEq, List.cons.injEq, Prod.mk.injEq] at asked
    rw [← toList_wanted, ← asked.1.2, String.toList_ofList]
  have sameLength : (writtenName family ++ axisPart).length =
      ((familyName family).toList ++ axisPart).length := by
    rw [writtenName_eq, List.length_append, List.length_append, List.length_map]
  have whole := takeWhile_isInValue_of_length (sameLength.trans (congrArg List.length value).symm).le
  rw [whole] at value
  rcases Url.formDecode_of_length_le (sameLength.trans (congrArg List.length value).symm).le with
    ⟨noEscape, read⟩
  rw [read] at value
  have stays : ∀ c ∈ writtenName family, isInValue c = true := by
    intro c member
    apply List.mem_takeWhile_imp (l := writtenName family ++ axisPart)
    rw [whole]
    exact List.mem_append_left _ member
  constructor
  · intro member
    cases stays '&' ((mem_writtenName_iff (by decide) (by decide)).mpr member)
  · intro member
    cases stays '#' ((mem_writtenName_iff (by decide) (by decide)).mpr member)
  · intro member
    apply Url.plus_notMem_withBlanks (writtenName family ++ axisPart)
    rw [value]
    exact List.mem_append_left _ member
  · rw [value, hasEscape_append_axisPart] at noEscape
    exact noEscape

/-- An ampersand in a name begins another parameter. -/
example : linkParameters? (linkLine .standard "R&B") =
    some [("family", "R"), ("B:wght@100..900", ""), ("display", "swap")] := by
  decide +kernel

/-! ## All links -/

/-- The links of a page are different from each other and ask for the names of its families
as they are. -/
structure FontLinksExact (images : ImageMap) (root : Node) : Prop where
  distinct : (linkLines ((ofNode images root).render .standard)).Nodup
  parameters : (linkLines ((ofNode images root).render .standard)).map linkParameters? =
    (ofNode images root).fonts.map fun family => some (wanted family)

/-- A link depends on the name of its family only. -/
theorem linkLine_eq_of_name_eq {family other : String}
    (same : familyName family = familyName other) :
    linkLine .standard family = linkLine .standard other := by
  have written : writtenName family = writtenName other := by
    rw [writtenName_eq, same, ← writtenName_eq]
  have address : fontUrl .standard family = fontUrl .standard other := by
    apply String.toList_inj.mp
    rw [toList_fontUrl, toList_fontUrl, written]
  rw [linkLine_eq, linkLine_eq, address]

theorem name_eq_of_wanted_eq {family other : String} (same : wanted family = wanted other) :
    familyName family = familyName other := by
  rw [wanted, wanted, List.cons.injEq, Prod.mk.injEq] at same
  have values := congrArg String.toList same.1.2
  rw [toList_wanted, toList_wanted] at values
  exact String.toList_inj.mp (List.append_cancel_right values)

/-- The links of a page are exact if and only if its families differ in more than their
blanks and have plain names: no ampersand, number sign or plus sign, and no percent sign in
front of two hexadecimal digits.  Everything else may be in a name, as it is escaped for
markup or has no meaning in a query. -/
theorem fontLinksExact_iff (images : ImageMap) (root : Node) :
    FontLinksExact images root ↔
      ((ofNode images root).fonts.map familyName).Nodup ∧
        ∀ family ∈ (ofNode images root).fonts, IsPlainName (familyName family).toList := by
  have lines : linkLines ((ofNode images root).render .standard) =
      (ofNode images root).fonts.map (linkLine .standard) :=
    linkLines_render (by decide) _
  constructor
  · rintro ⟨distinct, parameters⟩
    rw [lines] at distinct parameters
    rw [List.map_map] at parameters
    constructor
    · apply List.pairwise_map.mpr
      apply (List.pairwise_map.mp distinct).imp
      intro family other different same
      exact different (linkLine_eq_of_name_eq same)
    · intro family member
      have asked := List.map_inj_left.mp parameters family member
      rw [Function.comp_apply] at asked
      exact isPlainName_of_linkParameters? asked
  · rintro ⟨names, plain⟩
    have asked : ∀ family ∈ (ofNode images root).fonts,
        linkParameters? (linkLine .standard family) = some (wanted family) :=
      fun family member => linkParameters?_of_isPlainName (plain family member)
    constructor
    · rw [lines]
      apply List.pairwise_map.mpr
      apply (List.pairwise_map.mp names).imp_of_mem
      intro family other member otherMember different same
      apply different
      apply name_eq_of_wanted_eq
      rw [← Option.some.injEq, ← asked family member, ← asked other otherMember, same]
    · rw [lines, List.map_map]
      apply List.map_congr_left
      intro family member
      rw [Function.comp_apply]
      exact asked family member

/-- Two texts whose families differ in their blanks only. -/
def signs : Node :=
  ((Node.ofShape "0" "Signs" .frame).withLayout .vertical).withChildren [
    (Node.ofShape "1" "Open" .text).withText "Open" (TypeStyle.ofFamily "Open Sans" 12.0),
    (Node.ofShape "2" "Closed" .text).withText "Closed" (TypeStyle.ofFamily "Open  Sans" 12.0)]

/-- Both texts have the same link. -/
theorem not_fontLinksExact_signs : ¬FontLinksExact [] signs := by
  intro exactLinks
  have distinct := exactLinks.distinct
  have fonts : (ofNode [] signs).fonts = ["Open Sans", "Open  Sans"] := by
    rw [fonts_ofNode]
    decide +kernel
  have sameName : familyName "Open Sans" = familyName "Open  Sans" := by decide +kernel
  rw [linkLines_render (by decide), fonts, List.map_cons, List.nodup_cons] at distinct
  apply distinct.1
  rw [linkLine_eq_of_name_eq sameName]
  exact List.mem_cons_self

end Page
end Artboard
