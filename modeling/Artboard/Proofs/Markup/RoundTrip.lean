import Mathlib.Tactic.SplitIfs
import Artboard.Proofs.Markup.Reader
import Artboard.Proofs.Text.Pieces

/-!
# Written markup reads back

What the printer writes for a forest is read as that forest, whatever texts and
values are in it.  The forest only has to be one that can be written at all: tags
and attribute names are names, no element is a line break, and texts are neither
empty nor next to each other.  The main statement is `read?_renderForest`.

The proofs follow the printer.  For every piece it writes, a lemma says how
reading the piece changes a reader; the last of them is about forests and goes by
recursion on the trees.
-/

namespace Artboard
namespace Markup

/-! ## Escapes, character by character -/

theorem escapeText_nil : escapeText [] = [] := rfl

theorem escapeAttribute_nil : escapeAttribute [] = [] := rfl

theorem replace_append (c : Char) (entity : String) (first second : List Char) :
    replace c entity (first ++ second) = replace c entity first ++ replace c entity second :=
  List.flatMap_append

theorem escapeText_append (first second : List Char) :
    escapeText (first ++ second) = escapeText first ++ escapeText second := by
  simp only [escapeText, replace_append]

theorem escapeAttribute_append (first second : List Char) :
    escapeAttribute (first ++ second) = escapeAttribute first ++ escapeAttribute second := by
  simp only [escapeAttribute, escapeText_append, replace_append]

theorem escapeText_cons (c : Char) (text : List Char) :
    escapeText (c :: text) = escapeText [c] ++ escapeText text :=
  escapeText_append [c] text

theorem escapeAttribute_cons (c : Char) (value : List Char) :
    escapeAttribute (c :: value) = escapeAttribute [c] ++ escapeAttribute value :=
  escapeAttribute_append [c] value

theorem escapeText_singleton (c : Char) :
    escapeText [c] =
      if c = '&' then "&amp;".toList
      else if c = '<' then "&lt;".toList
      else if c = '>' then "&gt;".toList
      else [c] := by
  by_cases isAmpersand : c = '&'
  · subst isAmpersand
    decide
  · by_cases isLess : c = '<'
    · subst isLess
      decide
    · by_cases isGreater : c = '>'
      · subst isGreater
        decide
      · simp only [escapeText, replace, List.flatMap_cons, List.flatMap_nil, List.append_nil,
          if_neg isAmpersand, if_neg isLess, if_neg isGreater]

theorem escapeAttribute_singleton (c : Char) :
    escapeAttribute [c] =
      if c = '"' then "&quot;".toList
      else if c = '\'' then "&#39;".toList
      else escapeText [c] := by
  by_cases isQuote : c = '"'
  · subst isQuote
    decide
  · by_cases isApostrophe : c = '\''
    · subst isApostrophe
      decide
    · rw [escapeAttribute, if_neg isQuote, if_neg isApostrophe, escapeText_singleton]
      split_ifs
      · decide
      · decide
      · decide
      · simp only [replace, List.flatMap_cons, List.flatMap_nil, List.append_nil,
          if_neg isQuote, if_neg isApostrophe]

/-- A character of a text whose lines are kept apart. -/
def textChar (c : Char) : List Char :=
  if c = '\n' then lineBreak else escapeText [c]

/-- The line breaks stand where the line ends were. -/
theorem textWithBreaks_eq_flatMap (text : List Char) :
    textWithBreaks text = text.flatMap textChar := by
  induction text with
  | nil => decide
  | cons c rest inductionHypothesis =>
      rw [List.flatMap_cons, ← inductionHypothesis]
      simp only [textWithBreaks, Text.splitAt, textChar]
      rcases List.exists_cons_of_ne_nil (Text.splitAt_ne_nil '\n' rest)
        with ⟨piece, others, pieces⟩
      by_cases isBreak : c = '\n'
      · rw [if_pos isBreak, if_pos isBreak, pieces]
        simp [Text.join, escapeText_nil]
      · rw [if_neg isBreak, if_neg isBreak, pieces]
        cases others with
        | nil => simp [Text.join, escapeText_cons c piece]
        | cons next others => simp [Text.join, escapeText_cons c piece]

/-! ## Reading text and values -/

namespace Reader

def addText (reader : Reader) (text : List Char) : Reader :=
  { reader with text := reader.text ++ text }

/-- A character without a meaning of its own is text. -/
theorem step_plainChar {reader : Reader} {c : Char} (inContent : reader.mode = .content)
    (notLess : c ≠ '<') (notAmpersand : c ≠ '&') (notGreater : c ≠ '>') :
    reader.step c = reader.addChar c := by
  simp only [step, inContent]
  rw [if_neg notLess, if_neg notAmpersand, if_neg notGreater]

theorem run_textChar (reader : Reader) (c : Char) (inContent : reader.mode = .content) :
    reader.run (textChar c) = reader.addChar c := by
  rcases reader with ⟨opened, trees, text, mode⟩
  subst inContent
  by_cases isBreak : c = '\n'
  · subst isBreak
    rfl
  · rw [textChar, if_neg isBreak, escapeText_singleton]
    split_ifs with isAmpersand isLess isGreater
    · subst isAmpersand
      rfl
    · subst isLess
      rfl
    · subst isGreater
      rfl
    · change Reader.step ⟨opened, trees, text, .content⟩ c = _
      exact step_plainChar rfl isLess isAmpersand isGreater

/-- Written text is read as the text that was meant. -/
theorem run_textWithBreaks (text : List Char) (reader : Reader)
    (inContent : reader.mode = .content) :
    reader.run (textWithBreaks text) = reader.addText text := by
  rw [textWithBreaks_eq_flatMap]
  induction text generalizing reader with
  | nil => simp [addText]
  | cons c rest inductionHypothesis =>
      rw [List.flatMap_cons, run_append, run_textChar reader c inContent,
        inductionHypothesis (reader.addChar c) rfl]
      simp [addText, addChar, inContent]

theorem step_plainValueChar (reader : Reader) (head : Head) (name value : List Char) {c : Char}
    (notQuote : c ≠ '"') (notAmpersand : c ≠ '&') (notBracket : ¬(c = '<' ∨ c = '>')) :
    (reader.goOn (.value head name value)).step c =
      reader.goOn (.value head name (value ++ [c])) := by
  change (if c = '"' then _ else if c = '&' then _ else if c = '<' ∨ c = '>' then _ else _) = _
  rw [if_neg notQuote, if_neg notAmpersand, if_neg notBracket]
  rfl

theorem run_escapeAttribute_singleton (reader : Reader) (head : Head) (name value : List Char)
    (c : Char) :
    (reader.goOn (.value head name value)).run (escapeAttribute [c]) =
      reader.goOn (.value head name (value ++ [c])) := by
  rw [escapeAttribute_singleton, escapeText_singleton]
  split_ifs with isQuote isApostrophe isAmpersand isLess isGreater
  · subst isQuote
    rfl
  · subst isApostrophe
    rfl
  · subst isAmpersand
    rfl
  · subst isLess
    rfl
  · subst isGreater
    rfl
  · exact step_plainValueChar reader head name value isQuote isAmpersand
      (fun isBracket => isBracket.elim isLess isGreater)

/-- A written value is read as the value that was meant, and its end is not in
it. -/
theorem run_escapeAttribute (reader : Reader) (head : Head) (name : List Char)
    (value before : List Char) :
    (reader.goOn (.value head name before)).run (escapeAttribute value) =
      reader.goOn (.value head name (before ++ value)) := by
  induction value generalizing before with
  | nil => simp [escapeAttribute_nil]
  | cons c rest inductionHypothesis =>
      rw [escapeAttribute_cons, run_append, run_escapeAttribute_singleton, inductionHypothesis]
      simp

/-! ## Reading tags -/

/-- A name is read in every mode that collects the characters of one. -/
theorem run_name (reader : Reader) (collect : List Char → Mode)
    (collects : ∀ before c, isNameChar c = true →
      (reader.goOn (collect before)).step c = reader.goOn (collect (before ++ [c])))
    (name before : List Char) (clean : ∀ c ∈ name, isNameChar c = true) :
    (reader.goOn (collect before)).run name = reader.goOn (collect (before ++ name)) := by
  induction name generalizing before with
  | nil => simp
  | cons c rest inductionHypothesis =>
      have first := collects before c (clean c List.mem_cons_self)
      rw [run_cons, first, inductionHypothesis _ (fun x member =>
        clean x (List.mem_cons_of_mem _ member))]
      simp

end Reader

def isName (text : String) : Bool :=
  !text.toList.isEmpty && text.toList.all isNameChar

theorem cons_of_isName {text : String} (named : isName text = true) :
    ∃ c rest, text.toList = c :: rest ∧ isNameChar c = true ∧
      ∀ x ∈ rest, isNameChar x = true := by
  cases written : text.toList with
  | nil => simp [isName, written] at named
  | cons c rest =>
      simp only [isName, written, List.isEmpty_cons, Bool.not_false, Bool.true_and,
        List.all_cons, Bool.and_eq_true, List.all_eq_true] at named
      exact ⟨c, rest, rfl, named.1, named.2⟩

theorem ne_of_isNameChar {c other : Char} (named : isNameChar c = true)
    (unnamed : isNameChar other = false) : c ≠ other := by
  intro equal
  rw [equal, unnamed] at named
  cases named

/-- Where the reader is behind a tag and some attributes. -/
def Mode.behind (tag : List Char) (attributes : List Attribute) : Mode :=
  if attributes = [] then .tag tag else .behindValue ⟨tag, attributes⟩

namespace Reader

theorem step_behind_blank (reader : Reader) (tag : List Char) (attributes : List Attribute) :
    (reader.goOn (.behind tag attributes)).step ' ' = reader.goOn (.gap ⟨tag, attributes⟩) := by
  cases attributes <;> rfl

theorem step_behind_bracket (reader : Reader) (tag : List Char) (attributes : List Attribute) :
    (reader.goOn (.behind tag attributes)).step '>' =
      (reader.goOn (.behind tag attributes)).closeTag ⟨tag, attributes⟩ := by
  cases attributes <;> rfl

theorem step_endTag_bracket (reader : Reader) (tag : List Char) :
    (reader.goOn (.endTag tag)).step '>' = (reader.goOn (.endTag tag)).closeElement tag := rfl

/-- A tag behind its bracket is read up to its attributes. -/
theorem run_tag (reader : Reader) {tag : String} (named : isName tag = true) :
    (reader.goOn .bracket).run tag.toList = reader.goOn (.behind tag.toList []) := by
  rcases cons_of_isName named with ⟨c, rest, written, first, others⟩
  have step : (reader.goOn .bracket).step c = reader.goOn (.tag [c]) := by
    change (if c = '/' then _ else if isNameChar c = true then _ else _) = _
    rw [if_neg (ne_of_isNameChar first rfl), if_pos first]
    rfl
  rw [written, run_cons, step, run_name reader .tag _ rest [c] others]
  · rfl
  · intro before x isName
    change (if isNameChar x = true then _ else _) = _
    rw [if_pos isName]
    rfl

theorem run_endTag (reader : Reader) {tag : String} (named : isName tag = true) :
    (reader.goOn (.endTag [])).run tag.toList = reader.goOn (.endTag tag.toList) := by
  rcases cons_of_isName named with ⟨c, rest, written, first, others⟩
  refine run_name reader .endTag ?_ tag.toList [] ?_
  · intro before x isName
    change (if isNameChar x = true then _ else _) = _
    rw [if_pos isName]
    rfl
  · intro x member
    rw [written] at member
    rcases List.mem_cons.mp member with same | member
    · exact same ▸ first
    · exact others x member

/-- A written attribute is read as one attribute with the value that was meant. -/
theorem run_attribute (reader : Reader) (head : Head) (entry : Attribute)
    (named : isName entry.name = true) :
    (reader.goOn (.gap head)).run entry.render =
      reader.goOn (.behindValue
        { head with attributes := head.attributes ++ [entry] }) := by
  rcases cons_of_isName named with ⟨c, rest, written, first, others⟩
  have step : (reader.goOn (.gap head)).step c = reader.goOn (.attributeName head [c]) := by
    change (if c = '/' then _ else if isNameChar c = true then _ else _) = _
    rw [if_neg (ne_of_isNameChar first rfl), if_pos first]
    rfl
  have name : (reader.goOn (.attributeName head [c])).run rest =
      reader.goOn (.attributeName head entry.name.toList) := by
    rw [written]
    refine run_name reader (.attributeName head) ?_ rest [c] others
    intro before x isName
    change (if isNameChar x = true then _ else _) = _
    rw [if_pos isName]
    rfl
  have equals : (reader.goOn (.attributeName head entry.name.toList)).run ['=', '"'] =
      reader.goOn (.value head entry.name.toList []) := rfl
  have sign : "=\"".toList = ['=', '"'] := String.toList_ofList
  rw [Attribute.render, written, List.cons_append, List.cons_append, List.cons_append,
    run_cons, step, List.append_assoc, List.append_assoc, run_append, name, sign,
    run_append, equals, run_append, run_escapeAttribute]
  change reader.goOn (.behindValue (head.push entry.name.toList ([] ++ entry.value.toList)))
    = _
  simp only [Head.push, List.nil_append, String.ofList_toList]

/-- Written attributes are read as these attributes. -/
theorem run_renderAttributes (reader : Reader) (tag : List Char)
    (attributes before : List Attribute)
    (named : ∀ entry ∈ attributes, isName entry.name = true) :
    (reader.goOn (.behind tag before)).run (renderAttributes attributes) =
      reader.goOn (.behind tag (before ++ attributes)) := by
  induction attributes generalizing before with
  | nil => simp [renderAttributes]
  | cons entry others inductionHypothesis =>
      have first := run_attribute reader ⟨tag, before⟩ entry
        (named entry List.mem_cons_self)
      have behind : Mode.behindValue ⟨tag, before ++ [entry]⟩ =
          .behind tag (before ++ [entry]) := by
        simp [Mode.behind]
      have rest := inductionHypothesis (before ++ [entry]) (fun other member =>
        named other (List.mem_cons_of_mem _ member))
      rw [renderAttributes, List.flatMap_cons, List.cons_append, run_cons, step_behind_blank,
        run_append, first, behind, ← renderAttributes, rest]
      simp

end Reader

/-! ## Trees that can be written -/

def Tree.isText : Tree → Bool
  | .text _ => true
  | .element .. | .void .. => false

def startsWithText (trees : List Tree) : Bool :=
  (trees.head?.map Tree.isText).getD false

mutual

/-- Trees that can be told from what is written for them: names are names, no
element is a line break, and no text is empty. -/
def Tree.isLegible : Tree → Bool
  | .element tag attributes content =>
    isName tag && tag != "br" && attributes.all (isName ·.name) && legibleForest content
  | .void tag attributes => isName tag && attributes.all (isName ·.name)
  | .text value => value != ""

/-- Forests of such trees in which no text is next to another one. -/
def legibleForest : List Tree → Bool
  | [] => true
  | tree :: trees =>
    tree.isLegible && !(tree.isText && startsWithText trees) && legibleForest trees

end

namespace Reader

/-- The reader behind one more tree. Text joins the text before it. -/
def add (reader : Reader) : Tree → Reader
  | .text value => reader.addText value.toList
  | tree => reader.addTree tree

theorem mode_add (reader : Reader) (tree : Tree) (inContent : reader.mode = .content) :
    (reader.add tree).mode = .content := by
  cases tree with
  | text value => exact inContent
  | element tag attributes content => rfl
  | void tag attributes => rfl

theorem opened_add (reader : Reader) (tree : Tree) :
    (reader.add tree).opened = reader.opened := by
  cases tree <;> rfl

theorem mode_foldl_add (trees : List Tree) (reader : Reader)
    (inContent : reader.mode = .content) : (trees.foldl add reader).mode = .content := by
  induction trees generalizing reader with
  | nil => exact inContent
  | cons tree trees inductionHypothesis =>
      exact inductionHypothesis (reader.add tree) (mode_add reader tree inContent)

theorem opened_foldl_add (trees : List Tree) (reader : Reader) :
    (trees.foldl add reader).opened = reader.opened := by
  induction trees generalizing reader with
  | nil => rfl
  | cons tree trees inductionHypothesis =>
      exact (inductionHypothesis (reader.add tree)).trans (opened_add reader tree)

/-- No trees of a legible forest run into each other, nor into the text before
them unless the first is a text itself. -/
theorem flushed_foldl_add (trees : List Tree) (reader : Reader)
    (legible : legibleForest trees = true)
    (apart : startsWithText trees = true → reader.text = []) :
    (trees.foldl add reader).flushed = reader.flushed ++ trees := by
  induction trees generalizing reader with
  | nil => simp
  | cons tree trees inductionHypothesis =>
      simp only [legibleForest, Bool.and_eq_true, Bool.not_eq_true'] at legible
      rcases legible with ⟨⟨first, separate⟩, others⟩
      rw [List.foldl_cons]
      cases tree with
      | text value =>
          have noTextBefore : reader.text = [] := apart rfl
          have noTextBehind : startsWithText trees = false := by
            simpa [Tree.isText] using separate
          have notEmpty : value.toList ≠ [] := by
            intro empty
            have isEmpty : value = "" := String.toList_inj.mp empty
            simp [Tree.isLegible, isEmpty] at first
          have behind : (reader.addText value.toList).flushed =
              reader.flushed ++ [.text value] := by
            simp [flushed, addText, noTextBefore, notEmpty]
          rw [add, inductionHypothesis _ others
            (fun impossible => by rw [noTextBehind] at impossible; cases impossible), behind]
          simp
      | element tag attributes content =>
          rw [add, inductionHypothesis _ others (fun _ => rfl)]
          · simp [flushed, addTree]
          · intro value impossible
            cases impossible
      | void tag attributes =>
          rw [add, inductionHypothesis _ others (fun _ => rfl)]
          · simp [flushed, addTree]
          · intro value impossible
            cases impossible

/-- The opening of an element up to its bracket. -/
theorem run_opening (reader : Reader) {tag : String} {attributes : List Attribute}
    (inContent : reader.mode = .content) (named : isName tag = true)
    (attributesNamed : ∀ entry ∈ attributes, isName entry.name = true) :
    reader.run ('<' :: tag.toList ++ renderAttributes attributes) =
      reader.goOn (.behind tag.toList attributes) := by
  have bracket : reader.step '<' = reader.goOn .bracket := by
    simp only [step, inContent]
    rfl
  rw [List.cons_append, run_cons, bracket, run_append, run_tag reader named,
    run_renderAttributes reader tag.toList attributes [] attributesNamed, List.nil_append]

theorem run_void (reader : Reader) {tag : String} {attributes : List Attribute}
    (inContent : reader.mode = .content) (named : isName tag = true)
    (attributesNamed : ∀ entry ∈ attributes, isName entry.name = true) :
    reader.run (Tree.void tag attributes).render = reader.addTree (.void tag attributes) := by
  have sign : " />".toList = [' ', '/', '>'] := String.toList_ofList
  rw [Tree.render, run_append, run_opening reader inContent named attributesNamed, sign,
    run_cons, step_behind_blank]
  change reader.addTree (.void (String.ofList tag.toList) attributes) = _
  rw [String.ofList_toList]

/-- The end tag of the innermost element completes it. -/
theorem run_ending (reader : Reader) {tag : String} {attributes : List Attribute}
    {before : List Tree} {outer : List Opened} (inContent : reader.mode = .content)
    (named : isName tag = true)
    (innermost : reader.opened = ⟨⟨tag.toList, attributes⟩, before⟩ :: outer) :
    reader.run ("</".toList ++ tag.toList ++ ['>']) =
      ⟨outer, before ++ [.element tag attributes reader.flushed], [], .content⟩ := by
  rcases reader with ⟨opened, trees, text, mode⟩
  subst inContent innermost
  have sign : "</".toList = ['<', '/'] := String.toList_ofList
  have slash : Reader.run ⟨⟨⟨tag.toList, attributes⟩, before⟩ :: outer, trees, text, .content⟩
      ['<', '/'] = Reader.goOn ⟨⟨⟨tag.toList, attributes⟩, before⟩ :: outer, trees, text,
        .content⟩ (.endTag []) := rfl
  rw [List.append_assoc, sign, run_append, slash, run_append, run_endTag _ named]
  rw [run_cons, step_endTag_bracket, run_nil]
  simp only [closeElement, goOn, if_true, String.ofList_toList]
  rfl

mutual

/-- A written tree is read as this tree, wherever it stands. -/
theorem run_render : (tree : Tree) → (reader : Reader) → tree.isLegible = true →
    reader.mode = .content → reader.run tree.render = reader.add tree
  | .text value, reader, _, inContent => by
      rw [Tree.render, run_textWithBreaks value.toList reader inContent]
      rfl
  | .void tag attributes, reader, legible, inContent => by
      simp only [Tree.isLegible, Bool.and_eq_true, List.all_eq_true] at legible
      rw [run_void reader inContent legible.1 legible.2]
      rfl
  | .element tag attributes content, reader, legible, inContent => by
      simp only [Tree.isLegible, Bool.and_eq_true, List.all_eq_true, bne_iff_ne] at legible
      rcases legible with ⟨⟨⟨named, notBreak⟩, attributesNamed⟩, contentLegible⟩
      have opening : (reader.goOn (.behind tag.toList attributes)).step '>' =
          reader.openElement ⟨tag.toList, attributes⟩ := by
        rw [step_behind_bracket, closeTag, if_neg]
        · rfl
        · intro isBreak
          exact notBreak (String.toList_inj.mp isBreak.1)
      have body := run_renderForest content (reader.openElement ⟨tag.toList, attributes⟩)
        contentLegible rfl
      have read := flushed_foldl_add content (reader.openElement ⟨tag.toList, attributes⟩)
        contentLegible (fun _ => rfl)
      have inside := opened_foldl_add content (reader.openElement ⟨tag.toList, attributes⟩)
      have ending := run_ending _
        (mode_foldl_add content (reader.openElement ⟨tag.toList, attributes⟩) rfl) named inside
      have pieces : (Tree.element tag attributes content).render =
          ('<' :: tag.toList ++ renderAttributes attributes) ++
            (['>'] ++ (renderForest content ++ ("</".toList ++ tag.toList ++ ['>']))) := by
        simp only [Tree.render, List.append_assoc]
      rw [pieces, run_append, run_opening reader inContent named attributesNamed, run_append,
        run_cons, run_nil, opening, run_append, body, ending, read]
      rfl

/-- A written forest is read as this forest, tree by tree. -/
theorem run_renderForest : (trees : List Tree) → (reader : Reader) →
    legibleForest trees = true → reader.mode = .content →
    reader.run (renderForest trees) = trees.foldl add reader
  | [], _, _, _ => rfl
  | tree :: trees, reader, legible, inContent => by
      simp only [legibleForest, Bool.and_eq_true] at legible
      have first := run_render tree reader legible.1.1 inContent
      have others := run_renderForest trees (reader.add tree) legible.2
        (mode_add reader tree inContent)
      rw [renderForest, run_append, first, others, List.foldl_cons]

end

end Reader

/-- What is written for a legible forest is read as this forest. Nothing in a text
or in a value is taken for markup. -/
theorem read?_renderForest (trees : List Tree) (legible : legibleForest trees = true) :
    read? (renderForest trees) = some trees := by
  have inContent := Reader.mode_foldl_add trees Reader.start rfl
  have closed := Reader.opened_foldl_add trees Reader.start
  have all := Reader.flushed_foldl_add trees Reader.start legible (fun _ => rfl)
  rw [read?, Reader.run_renderForest trees Reader.start legible rfl, Reader.forest?,
    inContent, closed]
  exact congrArg some all

end Markup
end Artboard
