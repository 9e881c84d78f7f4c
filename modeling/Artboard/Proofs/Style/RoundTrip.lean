import Artboard.Proofs.Style.Reader
import Artboard.Style.Declaration

/-!
# Reading back written rules

A value is a row of pieces, each of which is either free of marks or a quoted string.
Reading such a value takes it as it is and collects its strings.  When a value has no
blanks at its ends and the name of its property is a plain word, the property is read
back as it was, and so are declarations and rules that are put together from such
properties.
-/

namespace Artboard
namespace Style

/-! ## Blanks -/

/-- A text that neither begins nor ends with a blank. -/
structure IsTight (text : List Char) : Prop where
  begins : ∀ c ∈ text.head?, isBlank c = false
  ends : ∀ c ∈ text.getLast?, isBlank c = false

theorem dropWhile_eq_self_of_head {text : List Char}
    (begins : ∀ c ∈ text.head?, isBlank c = false) : text.dropWhile isBlank = text := by
  cases text with
  | nil => rfl
  | cons c rest =>
      have notBlank := begins c rfl
      apply List.dropWhile_cons_of_neg
      rw [notBlank]
      exact Bool.false_ne_true

theorem strip_of_isTight {text : List Char} (tight : IsTight text) : strip text = text := by
  have front : text.dropWhile isBlank = text := dropWhile_eq_self_of_head tight.begins
  have back : text.reverse.dropWhile isBlank = text.reverse := by
    apply dropWhile_eq_self_of_head
    rw [List.head?_reverse]
    exact tight.ends
  rw [strip, front, back, List.reverse_reverse]

theorem strip_append_left {blanks : List Char} (blank : blanks.all isBlank = true)
    (text : List Char) : strip (blanks ++ text) = strip text := by
  rw [strip, List.dropWhile_append_of_pos (List.all_eq_true.mp blank), strip]

theorem strip_append_blank {c : Char} (blank : isBlank c = true) (text : List Char) :
    strip (text ++ [c]) = strip text := by
  rw [strip, strip, List.dropWhile_append]
  split
  · next isEmpty =>
      rw [List.isEmpty_iff.mp isEmpty, List.dropWhile_cons_of_pos blank]
      rfl
  · rw [List.reverse_append, List.reverse_singleton, List.singleton_append,
      List.dropWhile_cons_of_pos blank]

/-! ## Values -/

/-- A text without characters that mean something outside of strings. -/
def isUnmarked (text : List Char) : Bool :=
  text.all fun c => !isMark c

theorem isMark_of_isUnmarked {text : List Char} {c : Char} (unmarked : isUnmarked text = true)
    (member : c ∈ text) : isMark c = false := by
  simpa only [Bool.not_eq_true'] using List.all_eq_true.mp unmarked c member

/-- A part of a value that is read as it is, with the given strings in it. -/
def ReadsAs (text : List Char) (strings : List String) : Prop :=
  ∀ (rules : List Rule) (rule : Rule) (name before : List Char) (found : List String),
    Reader.run ⟨rules, .value rule name before found⟩ text =
      ⟨rules, .value rule name (before ++ text) (found ++ strings)⟩

theorem ReadsAs.append {first second : List Char} {strings others : List String}
    (readsFirst : ReadsAs first strings) (readsSecond : ReadsAs second others) :
    ReadsAs (first ++ second) (strings ++ others) := by
  intro rules rule name before found
  rw [Reader.run_append, readsFirst, readsSecond, List.append_assoc, List.append_assoc]

theorem Reader.step_value {c : Char} (unmarked : isMark c = false) (rules : List Rule)
    (rule : Rule) (name before : List Char) (found : List String) :
    Reader.step ⟨rules, .value rule name before found⟩ c =
      ⟨rules, .value rule name (before ++ [c]) found⟩ := by
  simp only [isMark, Bool.or_eq_false_iff, beq_eq_false_iff_ne] at unmarked
  rcases unmarked with ⟨⟨⟨⟨notOpen, notClose⟩, notEnd⟩, notQuote⟩, notAngle⟩
  simp [step, goOn, isMark, notOpen, notClose, notEnd, notQuote, notAngle]

theorem readsAs_of_isUnmarked {text : List Char} (unmarked : isUnmarked text = true) :
    ReadsAs text [] := by
  induction text with
  | nil =>
      intro rules rule name before found
      rw [Reader.run_nil, List.append_nil, List.append_nil]
  | cons c rest inductionHypothesis =>
      intro rules rule name before found
      have first := isMark_of_isUnmarked unmarked List.mem_cons_self
      have readsRest := inductionHypothesis (Bool.and_eq_true_iff.mp unmarked).2
      rw [Reader.run_cons, Reader.step_value first, readsRest, List.append_assoc,
        List.singleton_append]

/-- A quoted string without quotes is read as one string. -/
theorem readsAs_quoted {content : String} (noQuote : '\'' ∉ content.toList) :
    ReadsAs ('\'' :: content.toList ++ ['\'']) [content] := by
  intro rules rule name before found
  have opens : Reader.step ⟨rules, .value rule name before found⟩ '\'' =
      ⟨rules, .string rule name before found []⟩ := rfl
  rw [List.cons_append, Reader.run_cons, opens, Reader.run_append,
    Reader.run_string rules rule name before found [] noQuote]
  simp [Reader.step, Reader.goOn, String.ofList_toList]

/-! ## Names and selectors -/

def isPropertyChar (c : Char) : Bool :=
  c.isAlpha || c == '-'

def isPropertyName (name : String) : Bool :=
  name.toList.all isPropertyChar

def specialChars : List Char :=
  ['{', '}', ';', '\'', '<', ' ', '\n', '\t', '\r', '\x0c']

/-- A class of characters without marks and blanks. -/
theorem plain_of_class {inClass : Char → Bool}
    (excludes : (specialChars.all fun other => !inClass other) = true) {c : Char}
    (member : inClass c = true) : isMark c = false ∧ isBlank c = false := by
  have special : c ∉ specialChars := by
    intro listed
    have excluded := List.all_eq_true.mp excludes c listed
    rw [member] at excluded
    cases excluded
  simp only [specialChars, List.mem_cons, List.not_mem_nil, or_false, not_or] at special
  simp [isMark, isBlank, special]

theorem isPropertyChar_plain {c : Char} (inName : isPropertyChar c = true) :
    isMark c = false ∧ isBlank c = false :=
  plain_of_class (by decide) inName

theorem isTight_of_isPropertyName {name : String} (named : isPropertyName name = true) :
    IsTight name.toList := by
  have inside : ∀ c ∈ name.toList, isBlank c = false := by
    intro c member
    exact (isPropertyChar_plain (List.all_eq_true.mp named c member)).2
  constructor
  · intro c first
    exact inside c (List.mem_of_mem_head? first)
  · intro c last
    exact inside c (List.mem_of_mem_getLast? last)

namespace Reader

theorem run_name {text : List Char} (inName : text.all isPropertyChar = true)
    (rules : List Rule) (rule : Rule) (before : List Char) :
    run ⟨rules, .name rule before⟩ text = ⟨rules, .name rule (before ++ text)⟩ := by
  induction text generalizing before with
  | nil => rw [run_nil, List.append_nil]
  | cons c rest inductionHypothesis =>
      rcases Bool.and_eq_true_iff.mp inName with ⟨first, others⟩
      have unmarked := (isPropertyChar_plain first).1
      have notColon : c ≠ ':' := by
        intro same
        rw [same] at first
        cases first
      have notClose : c ≠ '}' := by
        intro same
        rw [same] at unmarked
        cases unmarked
      have stays : step ⟨rules, .name rule before⟩ c = ⟨rules, .name rule (before ++ [c])⟩ := by
        simp [step, goOn, notColon, notClose, unmarked]
      rw [run_cons, stays, inductionHypothesis others, List.append_assoc, List.singleton_append]

theorem run_selector {text : List Char} (unmarked : isUnmarked text = true) (rules : List Rule)
    (before : List Char) :
    run ⟨rules, .selector before⟩ text = ⟨rules, .selector (before ++ text)⟩ := by
  induction text generalizing before with
  | nil => rw [run_nil, List.append_nil]
  | cons c rest inductionHypothesis =>
      have first := isMark_of_isUnmarked unmarked List.mem_cons_self
      have notOpen : c ≠ '{' := by
        intro same
        rw [same] at first
        cases first
      have stays : step ⟨rules, .selector before⟩ c = ⟨rules, .selector (before ++ [c])⟩ := by
        simp [step, goOn, notOpen, first]
      have readsRest := inductionHypothesis (Bool.and_eq_true_iff.mp unmarked).2
      rw [run_cons, stays, readsRest, List.append_assoc, List.singleton_append]

end Reader

/-! ## Properties -/

/-- A property that is read back as it is written. -/
structure Property.IsLegible (property : Property) : Prop where
  name : isPropertyName property.name = true
  value : ReadsAs property.value.toList property.strings
  tight : IsTight property.value.toList

def Property.written (property : Property) : List Char :=
  property.name.toList ++ ':' :: ' ' :: property.value.toList

def Rule.append (rule : Rule) (properties : List Property) : Rule :=
  { rule with properties := rule.properties ++ properties }

variable {property : Property}

/-- The end of a value, with or without a blank behind it, completes the property. -/
theorem Property.IsLegible.push (legible : property.IsLegible) (rule : Rule) {behind : List Char}
    (isBlank : behind = [] ∨ behind = [' ']) :
    rule.push (' ' :: property.name.toList) (' ' :: property.value.toList ++ behind)
      property.strings = rule.append [property] := by
  have front : [' '].all Style.isBlank = true := by decide
  have name : strip (' ' :: property.name.toList) = property.name.toList := by
    rw [← List.singleton_append, strip_append_left front,
      strip_of_isTight (isTight_of_isPropertyName legible.name)]
  have value : strip (' ' :: property.value.toList ++ behind) = property.value.toList := by
    rcases isBlank with none | one
    · rw [none, List.append_nil, ← List.singleton_append, strip_append_left front,
        strip_of_isTight legible.tight]
    · rw [one, strip_append_blank rfl, ← List.singleton_append, strip_append_left front,
        strip_of_isTight legible.tight]
  rw [Rule.push, name, value, String.ofList_toList, String.ofList_toList]
  rfl

namespace Reader

theorem run_property (legible : property.IsLegible) (rules : List Rule) (rule : Rule) :
    run ⟨rules, .name rule []⟩ (' ' :: property.written) =
      ⟨rules, .value rule (' ' :: property.name.toList) (' ' :: property.value.toList)
        property.strings⟩ := by
  have blank : step ⟨rules, .name rule []⟩ ' ' = ⟨rules, .name rule [' ']⟩ := rfl
  have colon : step ⟨rules, .name rule ([' '] ++ property.name.toList)⟩ ':' =
      ⟨rules, .value rule (' ' :: property.name.toList) [] []⟩ := rfl
  have gap : step ⟨rules, .value rule (' ' :: property.name.toList) [] []⟩ ' ' =
      ⟨rules, .value rule (' ' :: property.name.toList) [' '] []⟩ := rfl
  rw [run_cons, blank, Property.written, run_append, run_name legible.name, run_cons, colon,
    run_cons, gap, legible.value]
  rfl

end Reader

/-! ## Rules -/

def writtenAll (properties : List Property) : List Char :=
  "; ".toList.intercalate (properties.map Property.written)

def Rule.written (rule : Rule) : List Char :=
  rule.selector.toList ++ " \x7b ".toList ++ writtenAll rule.properties ++ " \x7d".toList

/-- A rule that is read back as it is written. -/
structure Rule.IsLegible (rule : Rule) : Prop where
  unmarked : isUnmarked rule.selector.toList = true
  tight : IsTight rule.selector.toList
  properties : ∀ property ∈ rule.properties, property.IsLegible

namespace Reader

/-- Properties are read back up to the closing brace. -/
theorem run_writtenAll {properties : List Property}
    (legible : ∀ property ∈ properties, property.IsLegible) (rules : List Rule) (rule : Rule) :
    run ⟨rules, .name rule []⟩ (' ' :: writtenAll properties ++ [' ', '}']) =
      ⟨rules ++ [rule.append properties], .selector []⟩ := by
  induction properties generalizing rule with
  | nil =>
      have same : rule.append [] = rule := by
        simp [Rule.append]
      rw [same]
      rfl
  | cons property others inductionHypothesis =>
      have first := legible property List.mem_cons_self
      cases others with
      | nil =>
          have gap : step ⟨rules, .value rule (' ' :: property.name.toList)
              (' ' :: property.value.toList) property.strings⟩ ' ' =
              ⟨rules, .value rule (' ' :: property.name.toList)
                (' ' :: property.value.toList ++ [' ']) property.strings⟩ := rfl
          have close : step ⟨rules, .value rule (' ' :: property.name.toList)
              (' ' :: property.value.toList ++ [' ']) property.strings⟩ '}' =
              ⟨rules ++ [rule.push (' ' :: property.name.toList)
                (' ' :: property.value.toList ++ [' ']) property.strings], .selector []⟩ := rfl
          rw [writtenAll, List.map_singleton, List.intercalate_singleton, run_append,
            run_property first, run_cons, gap, run_cons, close, first.push rule (Or.inr rfl)]
          rfl
      | cons second others =>
          have semicolon : step ⟨rules, .value rule (' ' :: property.name.toList)
              (' ' :: property.value.toList) property.strings⟩ ';' =
              ⟨rules, .name (rule.push (' ' :: property.name.toList)
                (' ' :: property.value.toList ++ []) property.strings) []⟩ := by
            rw [List.append_nil]
            rfl
          have split : ' ' :: writtenAll (property :: second :: others) ++ [' ', '}'] =
              ' ' :: property.written ++ ';' ::
                (' ' :: writtenAll (second :: others) ++ [' ', '}']) := by
            simp [writtenAll, List.intercalate_cons_cons]
          have readsOthers := inductionHypothesis
            (fun other member => legible other (List.mem_cons_of_mem property member))
            (rule.append [property])
          rw [split, run_append, run_property first, run_cons, semicolon,
            first.push rule (Or.inl rfl), readsOthers]
          simp [Rule.append]

theorem run_rule {rule : Rule} (legible : rule.IsLegible) (rules : List Rule) {before : List Char}
    (blank : before.all isBlank = true) :
    run ⟨rules, .selector before⟩ rule.written = ⟨rules ++ [rule], .selector []⟩ := by
  have gap : step ⟨rules, .selector (before ++ rule.selector.toList)⟩ ' ' =
      ⟨rules, .selector (before ++ rule.selector.toList ++ [' '])⟩ := rfl
  have brace : step ⟨rules, .selector (before ++ rule.selector.toList ++ [' '])⟩ '{' =
      ⟨rules, .name ⟨rule.selector, []⟩ []⟩ := by
    have selector : strip (before ++ rule.selector.toList ++ [' ']) = rule.selector.toList := by
      rw [strip_append_blank rfl, strip_append_left blank, strip_of_isTight legible.tight]
    change (⟨rules, .name ⟨String.ofList (strip _), []⟩ []⟩ : Reader) = _
    rw [selector, String.ofList_toList]
  have split : rule.written = rule.selector.toList ++ (' ' :: '{' ::
      (' ' :: writtenAll rule.properties ++ [' ', '}'])) := by
    simp [Rule.written]
  rw [split, run_append, run_selector legible.unmarked, run_cons, gap, run_cons, brace,
    run_writtenAll legible.properties]
  simp [Rule.append]

end Reader

/-! ## Sheets -/

def indent : List Char := List.replicate 8 ' '

def Rule.line (rule : Rule) : List Char :=
  indent ++ rule.written ++ ['\n']

theorem Reader.run_lines {sheet : List Rule} (legible : ∀ rule ∈ sheet, rule.IsLegible)
    (rules : List Rule) :
    run ⟨rules, .selector ['\n']⟩ (sheet.flatMap Rule.line) =
      ⟨rules ++ sheet, .selector ['\n']⟩ := by
  induction sheet generalizing rules with
  | nil => rw [List.flatMap_nil, run_nil, List.append_nil]
  | cons rule others inductionHypothesis =>
      have unmarked : isUnmarked indent = true := by decide
      have blank : (['\n'] ++ indent).all isBlank = true := by decide
      have newline : run ⟨rules ++ [rule], .selector []⟩ ['\n'] =
          ⟨rules ++ [rule], .selector ['\n']⟩ := rfl
      rw [List.flatMap_cons, Rule.line, run_append, run_append, run_append,
        run_selector unmarked, run_rule (legible rule List.mem_cons_self) rules blank, newline,
        inductionHypothesis, List.append_assoc, List.singleton_append]
      intro other member
      exact legible other (List.mem_cons_of_mem rule member)

/-! ## What is written somewhere in a sheet -/

theorem infix_writtenAll {property : Property} {properties : List Property}
    (member : property ∈ properties) : property.written <:+: writtenAll properties := by
  induction properties with
  | nil => cases member
  | cons first others inductionHypothesis =>
      cases others with
      | nil =>
          have isFirst := List.mem_singleton.mp member
          have only : writtenAll [first] = first.written := List.intercalate_singleton
          exact ⟨[], [], by rw [isFirst, only, List.nil_append, List.append_nil]⟩
      | cons second others =>
          have split : writtenAll (first :: second :: others) =
              first.written ++ "; ".toList ++ writtenAll (second :: others) := by
            rw [writtenAll, List.map_cons, List.map_cons, List.intercalate_cons_cons]
            rfl
          rw [split]
          rcases List.mem_cons.mp member with isFirst | later
          · rw [isFirst, List.append_assoc]
            exact List.infix_append_left
          · exact List.infix_append_of_infix_right (inductionHypothesis later)

/-- The value of a property is written in every sheet that has a rule with it. -/
theorem infix_lines {property : Property} {rule : Rule} {sheet : List Rule}
    (inRule : property ∈ rule.properties) (inSheet : rule ∈ sheet) :
    property.value.toList <:+: sheet.flatMap Rule.line := by
  have split : property.written = property.name.toList ++ [':', ' '] ++ property.value.toList := by
    rw [Property.written, List.append_assoc]
    rfl
  have inWritten : property.value.toList <:+: property.written := by
    rw [split]
    exact List.infix_append_right
  have inBlock : property.written <:+: rule.written :=
    List.infix_append_of_infix_left (List.infix_append_of_infix_right (infix_writtenAll inRule))
  have inLine : rule.written <:+: rule.line := List.infix_append _ _ _
  rw [List.flatMap_def]
  exact inWritten.trans (inBlock.trans (inLine.trans
    (List.infix_of_mem_flatten (List.mem_map_of_mem inSheet))))

end Style
end Artboard
