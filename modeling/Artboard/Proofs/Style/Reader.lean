import Mathlib.Tactic.SplitIfs

/-!
# Reading style sheets

A strict reader for style sheets that consist of rules.  It goes through the text one
character at a time and keeps what it is in the middle of.

A rule is a selector, an opening brace, declarations and a closing brace.  A declaration
is a name, a colon and a value, and it ends at a semicolon or at the closing brace.
Between single quotes a value has a string, in which every other character stands for
itself.  Outside of strings braces, semicolons and quotes have no other use, and an
opening angle bracket has none at all, so everything else is refused.  Blanks around
selectors, names and values do not count.
-/

namespace Artboard
namespace Style

/-- Characters that set words apart. -/
def isBlank (c : Char) : Bool :=
  c == ' ' || c == '\n' || c == '\t' || c == '\r' || c == '\x0c'

def strip (text : List Char) : List Char :=
  ((text.dropWhile isBlank).reverse.dropWhile isBlank).reverse

/-- Characters that mean something outside of strings, or nothing at all. -/
def isMark (c : Char) : Bool :=
  c == '{' || c == '}' || c == ';' || c == '\'' || c == '<'

/-- A declared property, with the strings in its value. -/
structure Property where
  name : String
  value : String
  strings : List String
  deriving DecidableEq, Repr

structure Rule where
  selector : String
  properties : List Property
  deriving DecidableEq, Repr

namespace Rule

def push (rule : Rule) (name value : List Char) (strings : List String) : Rule :=
  { rule with
    properties := rule.properties ++
      [⟨String.ofList (strip name), String.ofList (strip value), strings⟩] }

def strings (rule : Rule) : List String :=
  rule.properties.flatMap Property.strings

end Rule

/-- What the reader is in the middle of: a selector or the place between two rules, the
name of a property or the place behind the last one, a value with the strings read so far,
or a string in a value. -/
inductive Mode where
  | selector (text : List Char)
  | name (rule : Rule) (text : List Char)
  | value (rule : Rule) (name text : List Char) (strings : List String)
  | string (rule : Rule) (name text : List Char) (strings : List String) (content : List Char)
  | refused
  deriving DecidableEq, Repr

structure Reader where
  rules : List Rule
  mode : Mode
  deriving DecidableEq, Repr

namespace Reader

def start : Reader := ⟨[], .selector []⟩

def goOn (reader : Reader) (mode : Mode) : Reader :=
  { reader with mode := mode }

def addRule (reader : Reader) (rule : Rule) : Reader :=
  ⟨reader.rules ++ [rule], .selector []⟩

def step (reader : Reader) (c : Char) : Reader :=
  match reader.mode with
  | .selector text =>
    if c = '{' then reader.goOn (.name ⟨String.ofList (strip text), []⟩ [])
    else if isMark c then reader.goOn .refused
    else reader.goOn (.selector (text ++ [c]))
  | .name rule text =>
    if c = ':' then reader.goOn (.value rule text [] [])
    else if c = '}' then
      if strip text = [] then reader.addRule rule else reader.goOn .refused
    else if isMark c then reader.goOn .refused
    else reader.goOn (.name rule (text ++ [c]))
  | .value rule name text strings =>
    if c = '\'' then reader.goOn (.string rule name text strings [])
    else if c = ';' then reader.goOn (.name (rule.push name text strings) [])
    else if c = '}' then reader.addRule (rule.push name text strings)
    else if isMark c then reader.goOn .refused
    else reader.goOn (.value rule name (text ++ [c]) strings)
  | .string rule name text strings content =>
    if c = '\'' then
      reader.goOn (.value rule name (text ++ '\'' :: content ++ ['\''])
        (strings ++ [String.ofList content]))
    else reader.goOn (.string rule name text strings (content ++ [c]))
  | .refused => reader

def run (reader : Reader) (text : List Char) : Reader :=
  text.foldl step reader

@[simp] theorem run_nil (reader : Reader) : reader.run [] = reader := rfl

@[simp] theorem run_cons (reader : Reader) (c : Char) (text : List Char) :
    reader.run (c :: text) = (reader.step c).run text := rfl

theorem run_append (reader : Reader) (first second : List Char) :
    reader.run (first ++ second) = (reader.run first).run second :=
  List.foldl_append

/-- The rules that have been read if nothing is left open. -/
def rules? (reader : Reader) : Option (List Rule) :=
  match reader.mode with
  | .selector text => if strip text = [] then some reader.rules else none
  | _ => none

end Reader

def read? (text : List Char) : Option (List Rule) :=
  (Reader.start.run text).rules?

/-! ## Strings -/

/-- The strings of the rule that the reader is in, the open one last. -/
def Mode.strings : Mode → List String
  | .selector _ | .refused => []
  | .name rule _ => rule.strings
  | .value rule _ _ strings => rule.strings ++ strings
  | .string rule _ _ strings content => rule.strings ++ strings ++ [String.ofList content]

theorem Rule.strings_push (rule : Rule) (name value : List Char) (strings : List String) :
    (rule.push name value strings).strings = rule.strings ++ strings := by
  simp [Rule.push, Rule.strings]

namespace Reader

def strings (reader : Reader) : List String :=
  reader.rules.flatMap Rule.strings ++ reader.mode.strings

theorem run_refused (reader : Reader) (text : List Char) (isRefused : reader.mode = .refused) :
    (reader.run text).mode = .refused := by
  induction text generalizing reader with
  | nil => exact isRefused
  | cons c rest inductionHypothesis =>
      apply inductionHypothesis
      rw [step, isRefused]
      exact isRefused

/-- What one character does to the strings: nothing, or it opens a string, or it is one
more character of the open string and not a quote. -/
inductive Grows (c : Char) (before after : List String) : Prop where
  | same (eq : after = before)
  | opens (eq : after = before ++ [""])
  | lengthens (finished : List String) (content : List Char) (noQuote : c ≠ '\'')
      (was : before = finished ++ [String.ofList content])
      (eq : after = finished ++ [String.ofList (content ++ [c])])

theorem strings_step (reader : Reader) (c : Char) (accepted : (reader.step c).mode ≠ .refused) :
    Grows c reader.strings (reader.step c).strings := by
  rcases reader with ⟨rules, mode⟩
  cases mode with
  | selector text =>
      simp only [step] at accepted ⊢
      split_ifs at accepted ⊢
      · exact .same rfl
      · exact absurd rfl accepted
      · exact .same rfl
  | name rule text =>
      simp only [step] at accepted ⊢
      split_ifs at accepted ⊢
      · exact .same (by simp [strings, goOn, Mode.strings])
      · exact .same (by simp [strings, addRule, Mode.strings])
      · exact absurd rfl accepted
      · exact absurd rfl accepted
      · exact .same rfl
  | value rule name text found =>
      simp only [step] at accepted ⊢
      split_ifs at accepted ⊢
      · exact .opens (by simp [strings, goOn, Mode.strings])
      · exact .same (by simp [strings, goOn, Mode.strings, Rule.strings_push])
      · exact .same (by simp [strings, addRule, Mode.strings, Rule.strings_push])
      · exact absurd rfl accepted
      · exact .same rfl
  | string rule name text found content =>
      simp only [step]
      split_ifs with isQuote
      · exact .same (by simp [strings, goOn, Mode.strings])
      · refine .lengthens (rules.flatMap Rule.strings ++ (rule.strings ++ found)) content isQuote ?_ ?_
        · simp [strings, Mode.strings]
        · simp [strings, goOn, Mode.strings]
  | refused => exact absurd rfl accepted

/-- A reader that does not refuse a text does not refuse its beginning. -/
theorem accepted_step {reader : Reader} {c : Char} {rest : List Char}
    (accepted : (reader.run (c :: rest)).mode ≠ .refused) : (reader.step c).mode ≠ .refused := by
  intro isRefused
  exact accepted (run_refused (reader.step c) rest isRefused)

theorem quote_notMem_of_mem_strings {reader : Reader} (text : List Char)
    (accepted : (reader.run text).mode ≠ .refused)
    (clean : ∀ string ∈ reader.strings, '\'' ∉ string.toList) :
    ∀ string ∈ (reader.run text).strings, '\'' ∉ string.toList := by
  induction text generalizing reader with
  | nil => exact clean
  | cons c rest inductionHypothesis =>
      apply inductionHypothesis accepted
      intro string member
      cases strings_step reader c (accepted_step accepted) with
      | same eq =>
          rw [eq] at member
          exact clean string member
      | opens eq =>
          rw [eq] at member
          rcases List.mem_append.mp member with earlier | isNew
          · exact clean string earlier
          · rw [List.mem_singleton.mp isNew]
            exact List.not_mem_nil
      | lengthens finished content noQuote was eq =>
          rw [was] at clean
          rw [eq] at member
          rcases List.mem_append.mp member with earlier | isLast
          · exact clean string (List.mem_append_left _ earlier)
          · have cleanContent := clean _ (List.mem_append_right _ List.mem_cons_self)
            rw [String.toList_ofList] at cleanContent
            rw [List.mem_singleton.mp isLast, String.toList_ofList, List.mem_append,
              List.mem_singleton]
            rintro (inContent | isQuote)
            · exact cleanContent inContent
            · exact noQuote isQuote.symm

/-- A string that has been read stays or gets longer at its end. -/
theorem exists_prefix_of_mem_strings {reader : Reader} {string : String} (text : List Char)
    (accepted : (reader.run text).mode ≠ .refused) (member : string ∈ reader.strings) :
    ∃ longer ∈ (reader.run text).strings, string.toList <+: longer.toList := by
  induction text generalizing reader string with
  | nil => exact ⟨string, member, List.prefix_refl _⟩
  | cons c rest inductionHypothesis =>
      cases strings_step reader c (accepted_step accepted) with
      | same eq =>
          exact inductionHypothesis accepted (eq ▸ member)
      | opens eq =>
          apply inductionHypothesis accepted
          rw [eq]
          exact List.mem_append_left _ member
      | lengthens finished content noQuote was eq =>
          rw [was] at member
          rcases List.mem_append.mp member with earlier | isLast
          · apply inductionHypothesis accepted
            rw [eq]
            exact List.mem_append_left _ earlier
          · have grown : String.ofList (content ++ [c]) ∈ (reader.step c).strings := by
              rw [eq]
              exact List.mem_append_right _ List.mem_cons_self
            rcases inductionHypothesis accepted grown with ⟨longer, present, extended⟩
            refine ⟨longer, present, ?_⟩
            rw [String.toList_ofList] at extended
            rw [List.mem_singleton.mp isLast, String.toList_ofList]
            exact (List.prefix_append content [c]).trans extended

/-! ## Angle brackets -/

/-- The reader takes an opening angle bracket only in a string. -/
theorem mode_of_accepts_angle {reader : Reader} (accepted : (reader.step '<').mode ≠ .refused) :
    ∃ rule name text found content, reader.mode = .string rule name text found content := by
  rcases reader with ⟨rules, mode⟩
  cases mode with
  | string rule name text found content => exact ⟨rule, name, text, found, content, rfl⟩
  | selector text => exact absurd rfl accepted
  | name rule text => exact absurd rfl accepted
  | value rule name text found => exact absurd rfl accepted
  | refused => exact absurd rfl accepted

/-- A string goes on up to the next quote. -/
theorem run_string (rules : List Rule) (rule : Rule) (name text : List Char)
    (found : List String) (content : List Char) {more : List Char} (noQuote : '\'' ∉ more) :
    run ⟨rules, .string rule name text found content⟩ more =
      ⟨rules, .string rule name text found (content ++ more)⟩ := by
  induction more generalizing content with
  | nil => rw [run_nil, List.append_nil]
  | cons c rest inductionHypothesis =>
      rcases List.ne_and_not_mem_of_not_mem_cons noQuote with ⟨isOther, noQuoteLater⟩
      have stays : step ⟨rules, .string rule name text found content⟩ c =
          ⟨rules, .string rule name text found (content ++ [c])⟩ := by
        change (if c = '\'' then _ else _) = _
        rw [if_neg isOther.symm]
        rfl
      rw [run_cons, stays, inductionHypothesis (content ++ [c]) noQuoteLater, List.append_assoc,
        List.singleton_append]

end Reader

/-! ## Complete sheets -/

theorem Reader.mode_of_complete {reader : Reader} {sheet : List Rule}
    (complete : reader.rules? = some sheet) :
    reader.rules = sheet ∧ ∃ text, reader.mode = .selector text := by
  unfold Reader.rules? at complete
  split at complete
  · next text mode =>
      split_ifs at complete
      exact ⟨Option.some.inj complete, text, mode⟩
  · cases complete

/-- A complete reader has refused nothing, and its strings are those of its rules. -/
theorem Reader.strings_of_complete {reader : Reader} {sheet : List Rule}
    (complete : reader.rules? = some sheet) :
    reader.mode ≠ .refused ∧ reader.strings = sheet.flatMap Rule.strings := by
  rcases mode_of_complete complete with ⟨rules, text, mode⟩
  constructor
  · intro isRefused
    rw [isRefused] at mode
    cases mode
  · rw [strings, rules, mode]
    exact List.append_nil _

variable {text : List Char} {sheet : List Rule}

theorem quote_notMem_of_read? (reads : read? text = some sheet) :
    ∀ string ∈ sheet.flatMap Rule.strings, '\'' ∉ string.toList := by
  rcases Reader.strings_of_complete reads with ⟨accepted, strings⟩
  rw [← strings]
  apply Reader.quote_notMem_of_mem_strings text accepted
  intro string member
  cases member

/-- Where a sheet has an opening angle bracket the reader is in a string. -/
theorem mode_of_read? {before behind : List Char}
    (reads : read? (before ++ '<' :: behind) = some sheet) :
    ∃ rule name text found content,
      (Reader.start.run before).mode = .string rule name text found content := by
  rcases Reader.strings_of_complete reads with ⟨accepted, -⟩
  rw [Reader.run_append] at accepted
  exact Reader.mode_of_accepts_angle (Reader.accepted_step accepted)

/-- A sheet that ends in front of an opening angle bracket has a string left open. -/
theorem read?_eq_none_of_angle {before behind : List Char}
    (reads : read? (before ++ '<' :: behind) = some sheet) : read? before = none := by
  rcases mode_of_read? reads with ⟨rule, name, text, found, content, mode⟩
  rw [read?, Reader.rules?, mode]

/-- What begins with an opening angle bracket and has no quote in it occurs in a sheet
only inside strings. -/
theorem exists_string_of_infix {letters : List Char} (reads : read? text = some sheet)
    (noQuote : '\'' ∉ letters) (present : '<' :: letters <:+: text) :
    ∃ string ∈ sheet.flatMap Rule.strings, '<' :: letters <:+: string.toList := by
  rcases present with ⟨before, behind, split⟩
  rw [List.append_assoc, List.cons_append] at split
  subst split
  rcases mode_of_read? reads with ⟨rule, name, text, found, content, mode⟩
  rcases Reader.strings_of_complete reads with ⟨accepted, strings⟩
  have noQuoteAtAll : '\'' ∉ '<' :: letters := by
    rintro (_ | ⟨_, later⟩)
    exact noQuote later
  have inString := Reader.run_string (Reader.start.run before).rules rule name text found content
    noQuoteAtAll
  rw [← mode] at inString
  rw [← List.cons_append, Reader.run_append, Reader.run_append] at accepted strings
  rw [inString] at accepted strings
  have opened : String.ofList (content ++ '<' :: letters) ∈
      Reader.strings ⟨(Reader.start.run before).rules,
        .string rule name text found (content ++ '<' :: letters)⟩ := by
    simp [Reader.strings, Mode.strings]
  rcases Reader.exists_prefix_of_mem_strings behind accepted opened with
    ⟨longer, present, extended⟩
  rw [strings] at present
  rw [String.toList_ofList] at extended
  exact ⟨longer, present, (List.suffix_append content _).isInfix.trans extended.isInfix⟩

end Style
end Artboard
