import Artboard.Json.Printer
import Artboard.Proofs.Json.Record

/-!
# Printed values as sources

What the printer writes is a JSON text, with a source of its own: a text is printed
character by character, each one plain or as an escape, and a list or an object is printed
from its items.  How a number is printed is left open.  A number whose printed form reads
back has a source for that reason alone.
-/

namespace Artboard
namespace Json

/-! ## Texts -/

/-- The letter that escapes a character, if there is one. -/
def shortLetter? : Char → Option Char
  | '"' => some '"'
  | '\\' => some '\\'
  | '\x08' => some 'b'
  | '\x0c' => some 'f'
  | '\n' => some 'n'
  | '\r' => some 'r'
  | '\t' => some 't'
  | _ => none

theorem shortEscape?_of_shortLetter? {c letter : Char} (escape : shortLetter? c = some letter) :
    shortEscape? letter = some c := by
  unfold shortLetter? at escape
  split at escape
  case h_8 => cases escape
  all_goals
    cases escape
    rfl

theorem ne_of_shortLetter? {c : Char} (plain : shortLetter? c = none) : c ≠ '"' ∧ c ≠ '\\' := by
  constructor
  · rintro rfl
    cases plain
  · rintro rfl
    cases plain

/-- The third and fourth digit of the code of a control character. -/
def controlDigits (code : Nat) : Char × Char :=
  (if code < 16 then '0' else '1', Nat.digitChar (code % 16))

theorem hexCode?_control {code : Nat} (control : code < 0x20) :
    hexCode? '0' '0' (controlDigits code).1 (controlDigits code).2 = some code := by
  have every : ∀ code < 0x20,
      hexCode? '0' '0' (controlDigits code).1 (controlDigits code).2 = some code := by decide
  exact every code control

/-- A character as it is printed inside a text. -/
def Piece.ofChar (c : Char) : Piece :=
  match escape : shortLetter? c with
  | some letter => .short letter c (shortEscape?_of_shortLetter? escape)
  | none =>
    if control : c.toNat < 0x20 then
      .code '0' '0' (controlDigits c.toNat).1 (controlDigits c.toNat).2 c.toNat
        (hexCode?_control control)
    else .plain c ⟨(ne_of_shortLetter? escape).1, (ne_of_shortLetter? escape).2, control⟩

theorem escapeChar_eq (c : Char) :
    escapeChar c =
      match shortLetter? c with
      | some letter => ['\\', letter]
      | none => if c.toNat < 0x20 then controlEscape c else [c] := by
  unfold escapeChar shortLetter?
  split <;> simp_all

theorem controlEscape_eq {c : Char} (control : c.toNat < 0x20) :
    controlEscape c =
      ['\\', 'u', '0', '0', (controlDigits c.toNat).1, (controlDigits c.toNat).2] := by
  have every : ∀ code < 0x20,
      List.replicate (4 - (Nat.toDigits 16 code).length) '0' ++ Nat.toDigits 16 code =
        ['0', '0', (controlDigits code).1, (controlDigits code).2] := by decide
  rw [controlEscape, every c.toNat control]

theorem render_ofChar (c : Char) : (Piece.ofChar c).render = escapeChar c := by
  have printed := escapeChar_eq c
  rw [Piece.ofChar]
  split
  · next letter escape =>
      change ['\\', letter] = escapeChar c
      rw [printed, escape]
  · next escape =>
      rw [escape] at printed
      rw [printed]
      split
      · next control => exact (controlEscape_eq control).symm
      · rfl

theorem spelled?_ofChar (c : Char) (pieces : List Piece) :
    spelled? (Piece.ofChar c :: pieces) = (spelled? pieces).map (c :: ·) := by
  rw [Piece.ofChar]
  split
  · rfl
  · split
    · next control =>
        have notLow : isLowSurrogate c.toNat = false := by
          simp only [isLowSurrogate, Bool.and_eq_false_iff, decide_eq_false_iff_not]
          omega
        have notHigh : isHighSurrogate c.toNat = false := by
          simp only [isHighSurrogate, Bool.and_eq_false_iff, decide_eq_false_iff_not]
          omega
        rw [spelled?.eq_def]
        simp [notLow, notHigh]
    · rfl

/-- The pieces of a text as it is printed. -/
def printedPieces (text : String) : List Piece :=
  text.toList.map Piece.ofChar

@[simp] theorem said?_printedPieces (text : String) : said? (printedPieces text) = some text := by
  have every : ∀ chars : List Char, spelled? (chars.map Piece.ofChar) = some chars := by
    intro chars
    induction chars with
    | nil => rfl
    | cons c chars inductionHypothesis =>
        rw [List.map_cons, spelled?_ofChar, inductionHypothesis]
        rfl
  rw [said?, printedPieces, every]
  simp

theorem renderQuoted_printedPieces (text : String) :
    renderQuoted (printedPieces text) = renderText text := by
  rw [renderQuoted, renderText, renderPieces, printedPieces, List.flatMap_map]
  simp only [render_ofChar]

/-! ## Numbers -/

/-- The number is read back exactly from how it is printed. -/
def ReadsBack (x : Float) : Prop :=
  Codec.number.parse (Decimal.document x) = .ok x

instance : DecidablePred ReadsBack := fun x =>
  inferInstanceAs (Decidable (Codec.number.parse (Decimal.document x) = .ok x))

/-- A text that is read as a number is a number with blanks around it. -/
theorem exists_number_of_parse {text : String} {x : Float}
    (read : Codec.number.parse text = .ok x) :
    ∃ (frame : Frame) (number : NumberText),
      text.toList = frame.before.chars ++ (number.render ++ frame.after.chars) ∧
        number.value?.map Numeral.toFloat = some x := by
  rw [Codec.parse, eq_ok_iff_toOption, toOption_readAll, Option.bind_eq_some_iff] at read
  obtain ⟨⟨value, rest⟩, read, ends⟩ := read
  obtain ⟨blank, rfl⟩ : rest.dropWhile isGap = [] ∧ value = x := by simpa using ends
  have behind : ∀ c ∈ rest, isGap c = true := List.dropWhile_eq_nil_iff.mp blank
  change attempt readFloat text.toList = some (value, rest) at read
  rw [readFloat, attempt_bind, attempt_peekToken, Option.bind_some] at read
  dsimp only at read
  split at read
  · split at read
    · rw [attempt_bind, Option.bind_eq_some_iff] at read
      obtain ⟨⟨numeral, left⟩, numberRead, same⟩ := read
      obtain ⟨rfl, rfl⟩ : numeral.toFloat = value ∧ left = rest := by simpa using same
      obtain ⟨number, parts⟩ := exists_number_of_attempt numberRead
      have delimits : Delimits left := by
        intro c member
        exact Or.inl (behind c (List.mem_of_mem_head? member))
      rw [parts, attempt_readNumber number delimits.endsNumber] at numberRead
      obtain ⟨value, reads, same⟩ := Option.map_eq_some_iff.mp numberRead
      refine ⟨⟨⟨text.toList.takeWhile isGap, ?_⟩, ⟨left, behind⟩⟩, number, ?_, ?_⟩
      · exact fun c member => List.all_eq_true.mp List.all_takeWhile c member
      · rw [← parts, List.takeWhile_append_dropWhile]
      · rw [reads, (Prod.mk.inj same).1]
        rfl
    · simp at read
  · simp at read

/-! ## Lists and objects -/

/-- A value is printed as a source with blanks around it. -/
def Written (json : Json) (frame : Frame) (source : Source) : Prop :=
  json.render = frame.before.chars ++ (source.render ++ frame.after.chars)

/-- The frame without blanks. -/
def noFrame : Frame := ⟨noGap, noGap⟩

theorem written_noFrame {json : Json} {source : Source} (same : json.render = source.render) :
    Written json noFrame source := by
  simp [Written, noFrame, same]

/-- A printed key. -/
def printedLabel (name : String) (frame : Frame) : Label :=
  ⟨noGap, printedPieces name, noGap, frame⟩

/-- The items of a list are printed one by one. -/
theorem renderItems_written {values : List Json} {items : List (Frame × Source)}
    (written : List.Forall₂ (fun json item => Written json item.1 item.2) values items) :
    renderItems values = Source.renderItems true items := by
  induction written with
  | nil => rfl
  | @cons json item values items here rest inductionHypothesis =>
      have printed : json.render =
          item.1.before.chars ++ (item.2.render ++ item.1.after.chars) := here
      cases rest with
      | nil => simp [renderItems, Source.renderItems, printed]
      | cons next others =>
          rw [renderItems, inductionHypothesis, printed]
          simp [Source.renderItems]

/-- The members of an object are printed one by one. -/
theorem renderMembers_written {values : List (String × Json)} {members : List (Label × Source)}
    (written : List.Forall₂ (fun value member =>
      ∃ frame, member.1 = printedLabel value.1 frame ∧ Written value.2 frame member.2)
      values members) :
    renderMembers values = Source.renderMembers true members := by
  induction written with
  | nil => rfl
  | @cons value member values members here rest inductionHypothesis =>
      obtain ⟨frame, label, printed⟩ := here
      replace printed : value.2.render =
          frame.before.chars ++ (member.2.render ++ frame.after.chars) := printed
      rcases value with ⟨name, json⟩
      rcases member with ⟨_, source⟩
      cases label
      cases rest with
      | nil =>
          simp [renderMembers, Source.renderMembers, renderQuoted_printedPieces, printed]
      | cons next others =>
          rw [renderMembers, inductionHypothesis, printed]
          simp [Source.renderMembers, renderQuoted_printedPieces]

theorem written_list {values : List Json} {items : List (Frame × Source)}
    (written : List.Forall₂ (fun json item => Written json item.1 item.2) values items) :
    Written (.list values) noFrame (.list noGap items) := by
  apply written_noFrame
  simp [render, renderItems_written written]

theorem written_object {values : List (String × Json)} {members : List (Label × Source)}
    (written : List.Forall₂ (fun value member =>
      ∃ frame, member.1 = printedLabel value.1 frame ∧ Written value.2 frame member.2)
      values members) :
    Written (.object values) noFrame (.object noGap members) := by
  apply written_noFrame
  simp [render, renderMembers_written written]

/-! ## What the reader can take -/

mutual

/-- How many brackets of a value are open at once. -/
def depth : Json → Nat
  | .list items => depthOfItems items + 1
  | .object members => depthOfMembers members + 1
  | _ => 0

def depthOfItems : List Json → Nat
  | [] => 0
  | item :: items => max (depth item) (depthOfItems items)

def depthOfMembers : List (String × Json) → Nat
  | [] => 0
  | (_, value) :: members => max (depth value) (depthOfMembers members)

end

mutual

/-- The numbers in a value. -/
def numbers : Json → List Float
  | .number value => [value]
  | .list items => numbersOfItems items
  | .object members => numbersOfMembers members
  | _ => []

def numbersOfItems : List Json → List Float
  | [] => []
  | item :: items => numbers item ++ numbersOfItems items

def numbersOfMembers : List (String × Json) → List Float
  | [] => []
  | (_, value) :: members => numbers value ++ numbersOfMembers members

end

/-- A printed value can be read within a budget of brackets. -/
structure Fits (budget : Nat) (json : Json) : Prop where
  depth_le : json.depth ≤ budget
  readBack : ∀ x ∈ json.numbers, ReadsBack x

theorem fits_of_mem_items {budget : Nat} {items : List Json}
    (deep : depthOfItems items ≤ budget) (readBack : ∀ x ∈ numbersOfItems items, ReadsBack x) :
    ∀ item ∈ items, Fits budget item := by
  induction items with
  | nil => exact nofun
  | cons item items inductionHypothesis =>
      rw [depthOfItems, Nat.max_le] at deep
      rw [numbersOfItems, List.forall_mem_append] at readBack
      rw [List.forall_mem_cons]
      exact ⟨⟨deep.1, readBack.1⟩, inductionHypothesis deep.2 readBack.2⟩

theorem fits_of_mem_members {budget : Nat} {members : List (String × Json)}
    (deep : depthOfMembers members ≤ budget)
    (readBack : ∀ x ∈ numbersOfMembers members, ReadsBack x) :
    ∀ member ∈ members, Fits budget member.2 := by
  induction members with
  | nil => exact nofun
  | cons member members inductionHypothesis =>
      rw [depthOfMembers, Nat.max_le] at deep
      rw [numbersOfMembers, List.forall_mem_append] at readBack
      rw [List.forall_mem_cons]
      exact ⟨⟨deep.1, readBack.1⟩, inductionHypothesis deep.2 readBack.2⟩

/-- A list spends one bracket. -/
theorem Fits.exists_items {budget : Nat} {items : List Json} (fits : Fits budget (.list items)) :
    ∃ inner, budget = inner + 1 ∧ ∀ item ∈ items, Fits inner item := by
  rcases fits with ⟨deep, readBack⟩
  rw [depth] at deep
  cases budget with
  | zero => cases deep
  | succ inner =>
      exact ⟨inner, rfl, fits_of_mem_items (Nat.le_of_succ_le_succ deep) readBack⟩

/-- An object spends one bracket. -/
theorem Fits.exists_members {budget : Nat} {members : List (String × Json)}
    (fits : Fits budget (.object members)) :
    ∃ inner, budget = inner + 1 ∧ ∀ member ∈ members, Fits inner member.2 := by
  rcases fits with ⟨deep, readBack⟩
  rw [depth] at deep
  cases budget with
  | zero => cases deep
  | succ inner =>
      exact ⟨inner, rfl, fits_of_mem_members (Nat.le_of_succ_le_succ deep) readBack⟩

end Json
end Artboard
