import Mathlib.Data.List.TakeWhile
import Artboard.Proofs.Json.Number
import Artboard.Proofs.Json.Text

/-!
# What sources mean to readers

A reader is exact when what it makes of a value depends on the value alone: blanks before
the value are passed, nothing behind the value is touched, and nothing behind it makes a
difference.  An exact reader gives each source a meaning, and then everything about it is
said by equations between meanings.

The readers of lists and objects are exact when the readers of what is inside are, and
their meaning is put together from the meanings inside.
-/

namespace Artboard
namespace Json

/-! ## Around a value -/

/-- What can stand behind a value: nothing, a blank, a comma or a closing bracket. -/
def Delimits (rest : List Char) : Prop :=
  ∀ c ∈ rest.head?, isGap c = true ∨ c = ',' ∨ c = ']' ∨ c = '\x7d'

theorem delimits_nil : Delimits [] := by
  intro c member
  cases member

theorem delimits_cons {c : Char} (delimiter : c = ',' ∨ c = ']' ∨ c = '\x7d')
    (rest : List Char) : Delimits (c :: rest) := by
  intro d member
  cases member
  exact Or.inr delimiter

theorem Delimits.endsNumber {rest : List Char} (delimits : Delimits rest) :
    EndsNumber rest := by
  intro c member
  rcases delimits c member with blank | same | same | same
  · simp only [isGap, Bool.or_eq_true, beq_iff_eq] at blank
    rcases blank with ((same | same) | same) | same <;> subst same <;> decide
  all_goals subst same; decide

theorem Gap.delimits (gap : Gap) {rest : List Char} (delimits : Delimits rest) :
    Delimits (gap.chars ++ rest) := by
  rcases gap with ⟨chars, blank⟩
  cases chars with
  | nil => exact delimits
  | cons c chars =>
      intro d member
      cases member
      exact Or.inl (blank c List.mem_cons_self)

@[simp] theorem dropWhile_gap (gap : Gap) (text : List Char) :
    (gap.chars ++ text).dropWhile isGap = text.dropWhile isGap :=
  List.dropWhile_append_of_pos gap.blank

@[simp] theorem dropWhile_blank (gap : Gap) : gap.chars.dropWhile isGap = [] :=
  List.dropWhile_eq_nil_iff.mpr gap.blank

/-- The gap between two tokens that nothing separates. -/
def noGap : Gap := ⟨[], by simp⟩

@[simp] theorem chars_noGap : noGap.chars = [] := rfl

theorem isGap_eq_false_of_isDigit {c : Char} (isDigit : c.isDigit = true) : isGap c = false := by
  by_contra blank
  rw [Bool.not_eq_false] at blank
  simp only [isGap, Bool.or_eq_true, beq_iff_eq] at blank
  rcases blank with ((same | same) | same) | same <;> subst same <;> cases isDigit

/-- The first character of a value is no blank, comma or closing bracket. -/
def LeadsValue (c : Char) : Prop :=
  isGap c = false ∧ c ≠ ',' ∧ c ≠ ']' ∧ c ≠ '\x7d'

theorem leadsValue_of_isDigit {c : Char} (isDigit : c.isDigit = true) : LeadsValue c := by
  refine ⟨isGap_eq_false_of_isDigit isDigit, ?_, ?_, ?_⟩ <;>
    · intro same
      subst same
      cases isDigit

namespace Source

theorem exists_lead (source : Source) :
    ∃ c text, source.render = c :: text ∧ LeadsValue c := by
  cases source with
  | null => exact ⟨'n', _, rfl, by decide, by decide⟩
  | bool value =>
      cases value with
      | true => exact ⟨'t', _, rfl, by decide, by decide⟩
      | false => exact ⟨'f', _, rfl, by decide, by decide⟩
  | number number =>
      obtain ⟨c, text, parts, sign | isDigit⟩ := exists_head_number number
      · subst sign
        exact ⟨'-', text, parts, by decide, by decide⟩
      · exact ⟨c, text, parts, leadsValue_of_isDigit isDigit⟩
  | text pieces => exact ⟨'"', _, rfl, by decide, by decide⟩
  | list blank items => exact ⟨'[', _, rfl, by decide, by decide⟩
  | object blank members => exact ⟨'\x7b', _, rfl, by decide, by decide⟩

@[simp] theorem dropWhile_render (source : Source) (rest : List Char) :
    (source.render ++ rest).dropWhile isGap = source.render ++ rest := by
  obtain ⟨c, text, parts, leads⟩ := source.exists_lead
  rw [parts, List.cons_append, List.dropWhile_cons_of_neg (by simp [leads.1])]

theorem delimits_renderItems (items : List (Frame × Source)) (rest : List Char) :
    Delimits (renderItems false items ++ rest) := by
  cases items with
  | nil => exact delimits_cons (Or.inr (Or.inl rfl)) rest
  | cons item items => exact delimits_cons (Or.inl rfl) _

theorem delimits_renderMembers (members : List (Label × Source)) (rest : List Char) :
    Delimits (renderMembers false members ++ rest) := by
  cases members with
  | nil => exact delimits_cons (Or.inr (Or.inr rfl)) rest
  | cons member members => exact delimits_cons (Or.inl rfl) _

end Source

/-! ## Meanings -/

/-- The reader makes `meaning` of the value and stops behind it, whatever blanks stand
before the value and whatever can stand behind it. -/
def Reads (reader : Reader α) (source : Source) (meaning : Option α) : Prop :=
  ∀ (gap : Gap) (rest : List Char), Delimits rest →
    attempt reader (gap.chars ++ (source.render ++ rest)) = meaning.map fun value => (value, rest)

/-- What a reader makes of a value when nothing stands around it. -/
def meaning? (reader : Reader α) (source : Source) : Option α :=
  (attempt reader source.render).map Prod.fst

theorem Reads.meaning?_eq {reader : Reader α} {source : Source} {meaning : Option α}
    (reads : Reads reader source meaning) : meaning? reader source = meaning := by
  have alone := reads noGap [] delimits_nil
  rw [chars_noGap, List.nil_append, List.append_nil] at alone
  rw [meaning?, alone]
  cases meaning <;> rfl

/-- What the reader makes of a value depends on the value alone. -/
def IsExact (reader : Reader α) : Prop :=
  ∀ source, Reads reader source (meaning? reader source)

theorem isExact_of_reads {reader : Reader α}
    (reads : ∀ source, ∃ meaning, Reads reader source meaning) : IsExact reader := by
  intro source
  obtain ⟨meaning, here⟩ := reads source
  rwa [here.meaning?_eq]

theorem IsExact.reads_map {reader : Reader α} (exact : IsExact reader) (change : α → β)
    (source : Source) :
    Reads (change <$> reader) source ((meaning? reader source).map change) := by
  intro gap rest delimits
  rw [attempt_map, exact source gap rest delimits]
  cases meaning? reader source <;> rfl

theorem IsExact.map {reader : Reader α} (exact : IsExact reader) (change : α → β) :
    IsExact (change <$> reader) :=
  isExact_of_reads fun source => ⟨_, exact.reads_map change source⟩

/-- A text with blanks around a value is read as the value. -/
theorem parse_eq_ok_iff {codec : Codec α} (exact : IsExact (codec.read maxDepth)) (frame : Frame)
    (source : Source) (value : α) :
    codec.parse (frame.text source) = .ok value ↔
      meaning? (codec.read maxDepth) source = some value := by
  have read := exact source frame.before (frame.after.chars ++ [])
    (frame.after.delimits delimits_nil)
  rw [List.append_nil] at read
  rw [Codec.parse, Frame.text, String.toList_ofList, eq_ok_iff_toOption, toOption_readAll, read]
  cases meaning? (codec.read maxDepth) source <;>
    simp only [Option.map_none, Option.bind_none, Option.map_some, Option.bind_some,
      dropWhile_blank, if_true]

/-! ## Scalars -/

/-- The first character of a number leads no value of another kind. -/
theorem exists_lead_number (number : NumberText) :
    ∃ c text, number.render = c :: text ∧ (c = '-' ∨ c.isDigit = true) ∧
      c ≠ 'n' ∧ c ≠ 't' ∧ c ≠ 'f' ∧ c ≠ '"' ∧ c ≠ '[' ∧ c ≠ '\x7b' := by
  obtain ⟨c, text, parts, leads⟩ := exists_head_number number
  refine ⟨c, text, parts, leads, ?_, ?_, ?_, ?_, ?_, ?_⟩ <;>
    · intro same
      subst same
      rcases leads with sign | isDigit
      · cases sign
      · cases isDigit

/-- A reader that looks at the next token is shown the value, without the blanks
before it. -/
theorem attempt_peekToken_bind (next : Option Char → Reader α) (gap : Gap) (source : Source)
    (rest : List Char) :
    attempt (peekToken >>= next) (gap.chars ++ (source.render ++ rest)) =
      attempt (next source.render.head?) (source.render ++ rest) := by
  obtain ⟨c, text, parts, -⟩ := source.exists_lead
  rw [attempt_bind, attempt_peekToken, dropWhile_gap, Source.dropWhile_render, Option.bind_some,
    parts]
  rfl

namespace Source

/-- Whether a value is null. -/
def unit? : Source → Option Unit
  | null => some ()
  | _ => none

/-- The flag that a value is. -/
def flag? : Source → Option Bool
  | bool value => some value
  | _ => none

/-- The text that a value is. -/
def text? : Source → Option String
  | text pieces => said? pieces
  | _ => none

/-- The double that a value is. -/
def double? : Source → Option Float
  | number value => value.value?.map Numeral.toFloat
  | _ => none

end Source

theorem reads_readBool (source : Source) : Reads readBool source source.flag? := by
  intro gap rest delimits
  rw [readBool, attempt_peekToken_bind]
  cases source with
  | bool value => cases value <;> simp [Source.flag?]
  | number number =>
      obtain ⟨c, text, parts, leads⟩ := exists_lead_number number
      simp [Source.flag?, parts, leads]
  | _ => simp [Source.flag?, renderQuoted]

theorem reads_readText (source : Source) : Reads readText source source.text? := by
  intro gap rest delimits
  rw [readText, attempt_peekToken_bind]
  cases source with
  | bool value => cases value <;> simp [Source.text?]
  | number number =>
      obtain ⟨c, text, parts, leads⟩ := exists_lead_number number
      simp [Source.text?, parts, leads]
  | text pieces => exact attempt_quotedText pieces rest
  | _ => simp [Source.text?]

theorem reads_readFloat (source : Source) : Reads readFloat source source.double? := by
  intro gap rest delimits
  rw [readFloat, attempt_peekToken_bind]
  cases source with
  | bool value => cases value <;> simp [Source.double?]
  | number number =>
      obtain ⟨c, text, parts, leads, -⟩ := exists_lead_number number
      have read := attempt_readNumber number delimits.endsNumber
      rw [Source.render_number, parts, List.head?_cons]
      rw [parts] at read
      simp only [leads, if_true, attempt_bind, read, Source.double?]
      cases number.value? <;> rfl
  | _ => simp [Source.double?, renderQuoted]

theorem reads_readNull (source : Source) : Reads readNull source source.unit? := by
  intro gap rest delimits
  rw [readNull, attempt_peekToken_bind]
  cases source with
  | bool value => cases value <;> simp [Source.unit?]
  | number number =>
      obtain ⟨c, text, parts, leads⟩ := exists_lead_number number
      simp [Source.unit?, parts, leads]
  | _ => simp [Source.unit?, renderQuoted]

/-- What a value means where null stands for nothing. -/
def nullableMeaning? (reader : Reader α) : Source → Option (Option α)
  | .null => some none
  | source => (meaning? reader source).map some

theorem reads_nullable {codec : Codec α} {budget : Nat} (exact : IsExact (codec.read budget))
    (source : Source) :
    Reads (codec.nullable.read budget) source
      (nullableMeaning? (codec.read budget) source) := by
  intro gap rest delimits
  have inner := exact source noGap rest delimits
  rw [chars_noGap, List.nil_append] at inner
  have present : attempt (some <$> codec.read budget) (source.render ++ rest) =
      ((meaning? (codec.read budget) source).map some).map fun value => (value, rest) := by
    rw [attempt_map, inner]
    cases meaning? (codec.read budget) source <;> rfl
  rw [Codec.nullable, attempt_peekToken_bind]
  cases source with
  | null => simp [nullableMeaning?]
  | number number =>
      obtain ⟨c, text, parts, leads⟩ := exists_lead_number number
      rw [Source.render_number, parts] at present ⊢
      simpa [leads, nullableMeaning?] using present
  | bool value => cases value <;> exact present
  | _ => exact present

theorem nullableMeaning?_of_ne_null {reader : Reader α} {source : Source}
    (present : source ≠ .null) :
    nullableMeaning? reader source = (meaning? reader source).map some := by
  cases source with
  | null => exact absurd rfl present
  | _ => rfl

/-! ## Lists -/

theorem attempt_moreItems_nil (isFirst : Bool) (gap : Gap) (rest : List Char) :
    attempt (moreItems isFirst) (gap.chars ++ ']' :: rest) = some (false, ']' :: rest) := by
  simp [moreItems, isGap]

theorem attempt_moreItems_cons (isFirst : Bool) (gap before : Gap) (value : Source)
    (rest : List Char) :
    attempt (moreItems isFirst)
        (gap.chars ++ (separator isFirst ++ (before.chars ++ (value.render ++ rest)))) =
      some (true, value.render ++ rest) := by
  obtain ⟨c, text, parts, notGap, notComma, notCloser, -⟩ := value.exists_lead
  cases isFirst <;> simp [moreItems, separator, parts, notGap, isGap.eq_1 ',']

/-- The items of a list are read one by one, each as what it means. -/
theorem attempt_readItems {item : Reader α} (exact : IsExact item)
    (items : List (Frame × Source)) (isFirst : Bool) (gap : Gap) (rest fuel : List Char)
    (enough : items.length < fuel.length) :
    attempt (readItems item fuel isFirst)
        (gap.chars ++ (Source.renderItems isFirst items ++ rest)) =
      (items.mapM fun entry => meaning? item entry.2).map fun values => (values, rest) := by
  induction items generalizing isFirst gap fuel with
  | nil =>
      cases fuel with
      | nil => cases enough
      | cons c fuel => simp [readItems, Source.renderItems, attempt_moreItems_nil]
  | cons entry items inductionHypothesis =>
      rcases entry with ⟨frame, value⟩
      cases fuel with
      | nil => cases enough
      | cons c fuel =>
          have here := exact value noGap
            (frame.after.chars ++ (Source.renderItems false items ++ rest))
            (frame.after.delimits (Source.delimits_renderItems items rest))
          rw [chars_noGap, List.nil_append] at here
          have further := inductionHypothesis false frame.after fuel (by simpa using enough)
          simp only [readItems, Source.renderItems, List.append_assoc, attempt_bind,
            attempt_moreItems_cons, Option.bind_some, if_true, here, List.mapM_cons]
          cases meaning? item value with
          | none => rfl
          | some meaning =>
              simp only [Option.map_some, Option.bind_some, further]
              cases items.mapM fun entry => meaning? item entry.2 <;> rfl

theorem length_renderItems_cons (isFirst : Bool) (frame : Frame) (value : Source)
    (items : List (Frame × Source)) :
    (Source.renderItems isFirst ((frame, value) :: items)).length =
      (separator isFirst).length + frame.before.chars.length + value.render.length +
        frame.after.chars.length + (Source.renderItems false items).length := by
  simp only [Source.renderItems, List.length_append]
  omega

theorem length_render_pos (source : Source) : 0 < source.render.length := by
  obtain ⟨c, text, parts, -⟩ := source.exists_lead
  rw [parts]
  exact Nat.zero_lt_succ _

theorem length_renderItems (isFirst : Bool) (items : List (Frame × Source)) :
    items.length < (Source.renderItems isFirst items).length := by
  induction items generalizing isFirst with
  | nil => exact Nat.zero_lt_succ _
  | cons entry items inductionHypothesis =>
      have further := inductionHypothesis false
      have here := length_render_pos entry.2
      rw [List.length_cons, length_renderItems_cons]
      omega

/-- What a value means where a list is read, given how to read its items if its bracket
may be entered. -/
def listMeaning? (item : Option (Reader α)) : Source → Option (List α)
  | .list _ items => item.bind fun item => items.mapM fun entry => meaning? item entry.2
  | _ => none

theorem reads_readList {item : Option (Reader α)} (exact : ∀ reader ∈ item, IsExact reader)
    (source : Source) : Reads (readList item) source (listMeaning? item source) := by
  intro gap rest delimits
  unfold readList
  rw [attempt_peekToken_bind]
  cases source with
  | bool value => cases value <;> simp [listMeaning?]
  | number number =>
      obtain ⟨c, text, parts, leads⟩ := exists_lead_number number
      simp [listMeaning?, parts, leads]
  | list blank items =>
      cases item with
      | none => simp [listMeaning?]
      | some item =>
          have inner := attempt_readItems (exact item rfl) items true blank rest
            (' ' :: (blank.chars ++ (Source.renderItems true items ++ rest)))
            (by have := length_renderItems true items; simp; omega)
          simpa [listMeaning?] using inner
  | _ => simp [listMeaning?, renderQuoted]

/-- An item may be replaced by one that means the same. -/
theorem listMeaning?_replace {item : Reader α} {blank : Gap} {front back : List (Frame × Source)}
    {frame : Frame} {value other : Source} {values : List α}
    (same : ∀ meaning, meaning? item value = some meaning → meaning? item other = some meaning)
    (read : listMeaning? (some item) (.list blank (front ++ (frame, value) :: back)) =
      some values) :
    listMeaning? (some item) (.list blank (front ++ (frame, other) :: back)) = some values := by
  simp only [listMeaning?, Option.bind_some, List.mapM_append, List.mapM_cons] at read ⊢
  cases here : meaning? item value with
  | none => simp [here] at read
  | some meaning => rwa [same meaning here, ← here]

/-! ## Objects -/

theorem attempt_moreMembers_nil (isFirst : Bool) (gap : Gap) (rest : List Char) :
    attempt (moreMembers isFirst) (gap.chars ++ '\x7d' :: rest) =
      some (false, '\x7d' :: rest) := by
  simp [moreMembers, isGap]

theorem attempt_moreMembers_cons (isFirst : Bool) (gap before : Gap) (key : List Piece)
    (rest : List Char) :
    attempt (moreMembers isFirst)
        (gap.chars ++ (separator isFirst ++ (before.chars ++ (renderQuoted key ++ rest)))) =
      some (true, renderQuoted key ++ rest) := by
  cases isFirst <;> simp [moreMembers, separator, renderQuoted, isGap]

theorem attempt_readColon (gap : Gap) (rest : List Char) :
    attempt readColon (gap.chars ++ ':' :: rest) = some ((), rest) := by
  simp [readColon, isGap]

/-- Continue what earlier members have made with one more member, whose key must say
something. -/
def stepMember (step : String → σ → Source → Option σ) (made : σ) (member : Label × Source) :
    Option σ :=
  (said? member.1.key).bind fun key => step key made member.2

/-- A reader of members does with each one, from behind its key, what a step says. -/
def ReadsMembers (member : String → σ → Reader σ) (step : String → σ → Source → Option σ) :
    Prop :=
  ∀ (key : String) (made : σ) (behind before : Gap) (value : Source) (rest : List Char),
    Delimits rest →
      attempt (member key made)
          (behind.chars ++ ':' :: (before.chars ++ (value.render ++ rest))) =
        (step key made value).map fun made => (made, rest)

/-- The members of an object are read one by one, each continuing what the earlier ones
have made. -/
theorem attempt_readMembers {member : String → σ → Reader σ}
    {step : String → σ → Source → Option σ} (exact : ReadsMembers member step)
    (members : List (Label × Source)) (isFirst : Bool) (made : σ) (gap : Gap)
    (rest fuel : List Char) (enough : members.length < fuel.length) :
    attempt (readMembers member fuel isFirst made)
        (gap.chars ++ (Source.renderMembers isFirst members ++ rest)) =
      (members.foldlM (stepMember step) made).map fun made => (made, rest) := by
  induction members generalizing isFirst made gap fuel with
  | nil =>
      cases fuel with
      | nil => cases enough
      | cons c fuel => simp [readMembers, Source.renderMembers, attempt_moreMembers_nil]
  | cons entry members inductionHypothesis =>
      rcases entry with ⟨label, value⟩
      cases fuel with
      | nil => cases enough
      | cons c fuel =>
          have here := fun key => exact key made label.behind label.frame.before value
            (label.frame.after.chars ++ (Source.renderMembers false members ++ rest))
            (label.frame.after.delimits (Source.delimits_renderMembers members rest))
          have further := fun made =>
            inductionHypothesis false made label.frame.after fuel (by simpa using enough)
          simp only [readMembers, Source.renderMembers, List.append_assoc, List.cons_append,
            attempt_bind, attempt_moreMembers_cons, Option.bind_some, if_true,
            attempt_quotedText, List.foldlM_cons, stepMember]
          cases said? label.key with
          | none => rfl
          | some key =>
              simp only [Option.map_some, Option.bind_some, here]
              cases step key made value with
              | none => rfl
              | some made =>
                  simp only [Option.map_some, Option.bind_some, further]
                  rfl

theorem length_renderMembers_cons (isFirst : Bool) (label : Label) (value : Source)
    (members : List (Label × Source)) :
    (Source.renderMembers isFirst ((label, value) :: members)).length =
      (separator isFirst).length + label.before.chars.length + (renderQuoted label.key).length +
        label.behind.chars.length + 1 + label.frame.before.chars.length + value.render.length +
        label.frame.after.chars.length + (Source.renderMembers false members).length := by
  simp only [Source.renderMembers, List.length_append, List.length_cons]
  omega

theorem length_renderMembers (isFirst : Bool) (members : List (Label × Source)) :
    members.length < (Source.renderMembers isFirst members).length := by
  induction members generalizing isFirst with
  | nil => exact Nat.zero_lt_succ _
  | cons entry members inductionHypothesis =>
      have further := inductionHypothesis false
      rw [List.length_cons, length_renderMembers_cons]
      omega

/-- What a member adds to the entries of a map. -/
def enterMeaning? (value : Reader α) (key : String) (entries : List (String × α))
    (source : Source) : Option (List (String × α)) :=
  (meaning? value source).map fun meaning => enter key meaning entries

/-- What a value means where a map is read, given how to read its values if its bracket
may be entered. -/
def entriesMeaning? (value : Option (Reader α)) : Source → Option (List (String × α))
  | .object _ members =>
    value.bind fun value => members.foldlM (stepMember (enterMeaning? value)) []
  | _ => none

theorem reads_readEntries {value : Option (Reader α)} (exact : ∀ reader ∈ value, IsExact reader)
    (source : Source) : Reads (readEntries value) source (entriesMeaning? value source) := by
  intro gap rest delimits
  unfold readEntries
  rw [attempt_peekToken_bind]
  cases source with
  | bool value => cases value <;> simp [entriesMeaning?]
  | number number =>
      obtain ⟨c, text, parts, leads⟩ := exists_lead_number number
      simp [entriesMeaning?, parts, leads]
  | object blank members =>
      cases value with
      | none => simp [entriesMeaning?]
      | some value =>
          have member : ReadsMembers
              (fun key entries => do
                readColon
                return enter key (← value) entries)
              (enterMeaning? value) := by
            intro key made behind before source rest delimits
            simp only [attempt_bind, attempt_readColon, Option.bind_some,
              exact value rfl source before rest delimits, enterMeaning?]
            cases meaning? value source <;> rfl
          have inner := attempt_readMembers member members true [] blank rest
            (' ' :: (blank.chars ++ (Source.renderMembers true members ++ rest)))
            (by have := length_renderMembers true members; simp; omega)
          simpa [entriesMeaning?] using inner
  | _ => simp [entriesMeaning?, renderQuoted]

end Json
end Artboard
