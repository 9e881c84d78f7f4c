import Artboard.Proofs.Style.Channel
import Artboard.Proofs.Style.Value
import Artboard.Proofs.Text.Nesting

/-!
# Terms of lists

Values with several parts are lists.  A reader takes a list apart at the commas outside of
parentheses, and a term of a list at its blanks, and reads every part on its own.  Numbers,
angles and percentages are words, and a colour is a name with flat parentheses, so neither is
divided by the separators of what it stands in.
-/

namespace Artboard
namespace Style

open Decimal (Reading reading? digits?)
open Text (IsWhole splitOutside)

/-! ## Readers -/

/-- What stands in parentheses behind a name. -/
def inside? (name : String) (text : List Char) : Option (List Char) :=
  (text.dropPrefix? (name.toList ++ ['('])).bind fun behind => behind.dropSuffix? [')']

/-- The terms of a list, which have commas in between. -/
def terms (text : List Char) : List (List Char) :=
  (splitOutside ',' 0 text).map strip

/-- The parts of a term, which have single blanks in between. -/
def parts (text : List Char) : List (List Char) :=
  splitOutside ' ' 0 text

def int? : List Char → Option Int
  | '-' :: text => (digits? text).map fun (n : Nat) => -(n : Int)
  | text => (digits? text).map fun (n : Nat) => (n : Int)

def length? (text : List Char) : Option Reading :=
  (text.dropSuffix? "px".toList).bind reading?

def degrees? (text : List Char) : Option Int :=
  (text.dropSuffix? "deg".toList).bind int?

def percent? (text : List Char) : Option Int :=
  (text.dropSuffix? "%".toList).bind int?

/-- A colour as it is read: steps of the channels, and the alpha value. -/
structure ColorReading where
  red : Int
  green : Int
  blue : Int
  alpha : Reading
  deriving DecidableEq, Repr

def color? (text : List Char) : Option ColorReading := do
  match terms (← inside? "rgba" text) with
  | [red, green, blue, alpha] =>
    return ⟨← int? red, ← int? green, ← int? blue, ← reading? alpha⟩
  | _ => none

/-! ## Words -/

theorem inside?_call (name : String) (inside : List Char) :
    inside? name (name.toList ++ '(' :: inside ++ [')']) = some inside := by
  have front : (name.toList ++ ['(']) ++ (inside ++ [')']) =
      name.toList ++ '(' :: inside ++ [')'] := by
    simp
  have behind : (inside ++ [')']).dropSuffix? [')'] = some inside :=
    List.dropSuffix?_eq_some_iff.mpr ⟨[')'], rfl, BEq.rfl⟩
  rw [inside?, ← front, List.dropPrefix?_append_of_beq _ BEq.rfl, Option.bind_some, behind]

theorem toList_call (name inside : String) :
    (name ++ "(" ++ inside ++ ")").toList = name.toList ++ '(' :: inside.toList ++ [')'] := by
  have opens : "(".toList = ['('] := String.toList_ofList
  have closes : ")".toList = [')'] := String.toList_ofList
  rw [String.toList_append, String.toList_append, String.toList_append, opens, closes]
  simp only [List.append_assoc, List.cons_append, List.nil_append]

/-- A unit is taken off the number in front of it. -/
theorem dropSuffix?_append (text unit : List Char) : (text ++ unit).dropSuffix? unit = some text :=
  List.dropSuffix?_eq_some_iff.mpr ⟨unit, rfl, BEq.rfl⟩

theorem int?_toString (n : Int) : int? (toString n).toList = some n := by
  have digits : ∀ m : Nat, digits? (Nat.toDigits 10 m) = some m := by
    intro m
    rw [Decimal.digits?_of_digits Nat.toDigits_ne_nil (fun _ => Decimal.isDigit_of_mem_toDigits),
      Nat.ofDigitChars_ten_toDigits]
  rw [Int.toString_eq_repr, Int.repr_eq_if]
  split
  · next nonneg =>
      rw [Nat.toList_repr]
      unfold int?
      split
      · next rest same =>
          have isSign : '-' ∈ Nat.toDigits 10 n.toNat := same ▸ List.mem_cons_self
          cases Decimal.isDigit_of_mem_toDigits isSign
      · rw [digits, Option.map_some, Int.toNat_of_nonneg nonneg]
  · next negative =>
      have sign : "-".toList = ['-'] := String.toList_ofList
      have size : -((-n).toNat : Int) = n := by omega
      rw [String.toList_append, sign, Nat.toList_repr, List.singleton_append, int?, digits,
        Option.map_some, size]

theorem length?_pixels (x : Float) :
    ∃ reading, length? (pixels x).toList = some reading ∧ reading.Says x := by
  rw [length?, pixels, String.toList_append, dropSuffix?_append]
  exact reading?_number x

/-- The characters of a word are not parentheses. -/
theorem isFlat_of_isWord {value : String} (word : isWord value = true) :
    ∀ c ∈ value.toList, c ≠ '(' ∧ c ≠ ')' := by
  intro c member
  have inWord := List.all_eq_true.mp (Bool.and_eq_true_iff.mp word).2 c member
  constructor
  · rintro rfl
    cases inWord
  · rintro rfl
    cases inWord

theorem notMem_of_isWord {value : String} {separator : Char} (word : isWord value = true)
    (other : isWordChar separator = false) : separator ∉ value.toList := by
  intro member
  have inWord := List.all_eq_true.mp (Bool.and_eq_true_iff.mp word).2 separator member
  rw [other] at inWord
  cases inWord

theorem isWhole_of_isWord {value : String} {separator : Char} (word : isWord value = true)
    (other : isWordChar separator = false) : IsWhole separator value.toList :=
  Text.isWhole_of_flat (isFlat_of_isWord word) (notMem_of_isWord word other)

/-! ## Terms and parts -/

/-- A text that is one term of a list. -/
structure IsTerm (text : List Char) : Prop where
  whole : IsWhole ',' text
  tight : IsTight text

theorem isTerm_of_isWord {value : String} (word : isWord value = true) : IsTerm value.toList :=
  ⟨isWhole_of_isWord word (by decide), (isPlain_of_isWord word).tight⟩

section

variable {texts : List (List Char)}

theorem terms_intercalate (nonempty : texts ≠ []) (areTerms : ∀ text ∈ texts, IsTerm text) :
    terms (", ".toList.intercalate texts) = texts := by
  have gap : IsWhole ',' [' '] := rfl
  have separator : ", ".toList = [',', ' '] := String.toList_ofList
  have blank : [' '].all isBlank = true := by decide
  rcases List.exists_cons_of_ne_nil nonempty with ⟨first, others, rfl⟩
  rw [List.forall_mem_cons] at areTerms
  have stripped : (others.map fun text => [' '] ++ text).map strip = others := by
    rw [List.map_map]
    refine (List.map_congr_left fun text member => ?_).trans (List.map_id others)
    rw [Function.comp_apply, strip_append_left blank,
      strip_of_isTight (areTerms.2 text member).tight]
    rfl
  rw [terms, separator, Text.splitOutside_intercalate gap areTerms.1.whole fun text member =>
    (areTerms.2 text member).whole, List.map_cons, strip_of_isTight areTerms.1.tight, stripped]

example : (terms "1px rgba(0, 0, 0, 1), 2px".toList).length = 2 := by decide

theorem parts_intercalate (nonempty : texts ≠ []) (wholes : ∀ text ∈ texts, IsWhole ' ' text) :
    parts (" ".toList.intercalate texts) = texts := by
  have gap : IsWhole ' ' [] := rfl
  have separator : " ".toList = [' '] := String.toList_ofList
  rcases List.exists_cons_of_ne_nil nonempty with ⟨first, others, rfl⟩
  rw [List.forall_mem_cons] at wholes
  rw [parts, separator, Text.splitOutside_intercalate gap wholes.1 wholes.2]
  simp only [List.nil_append, List.map_id']

end

/-! ## Colours -/

/-- What is read says a colour: its channels in steps of two hundred and fifty-five, and its
alpha value in hundredths. -/
structure ColorReading.Says (c : Color) (reading : ColorReading) : Prop where
  red : SaysChannel c.red reading.red
  green : SaysChannel c.green reading.green
  blue : SaysChannel c.blue reading.blue
  alpha : SaysAlpha c.alpha reading.alpha

/-- What stands between the parentheses of a colour. -/
def colorParts (c : Color) : List String :=
  [toString (channel c.red), toString (channel c.green), toString (channel c.blue), alpha c.alpha]

theorem toList_color (c : Color) :
    (color c).toList = "rgba".toList ++
      '(' :: ", ".toList.intercalate ((colorParts c).map String.toList) ++ [')'] := by
  have opening : "rgba(" = "rgba" ++ "(" := rfl
  have written : color c = "rgba" ++ "(" ++ ", ".intercalate (colorParts c) ++ ")" := by
    simp only [← opening, color, colorParts, String.intercalate_cons_cons,
      String.intercalate_singleton, String.append_assoc]
  rw [written, toList_call, String.toList_intercalate]

theorem isWord_of_mem_colorParts {c : Color} {part : String} (member : part ∈ colorParts c) :
    isWord part = true := by
  simp only [colorParts, List.mem_cons, List.not_mem_nil, or_false] at member
  rcases member with rfl | rfl | rfl | rfl
  · exact isWord_int _
  · exact isWord_int _
  · exact isWord_int _
  · exact isWord_decimal _

theorem color?_color (c : Color) :
    ∃ reading, color? (color c).toList = some reading ∧ reading.Says c := by
  have nonempty : (colorParts c).map String.toList ≠ [] := List.cons_ne_nil _ _
  have areTerms : ∀ text ∈ (colorParts c).map String.toList, IsTerm text := by
    intro text member
    rcases List.mem_map.mp member with ⟨part, inParts, rfl⟩
    exact isTerm_of_isWord (isWord_of_mem_colorParts inParts)
  rcases reading?_alpha c.alpha with ⟨reading, read, said⟩
  refine ⟨⟨channel c.red, channel c.green, channel c.blue, reading⟩, ?_,
    ⟨saysChannel_channel c.red, saysChannel_channel c.green, saysChannel_channel c.blue, said⟩⟩
  rw [color?, toList_color, inside?_call, Option.bind_eq_bind, Option.bind_some,
    terms_intercalate nonempty areTerms, colorParts]
  simp only [List.map_cons, List.map_nil]
  rw [int?_toString, int?_toString, int?_toString, read]
  rfl

/-- A colour is one part of what it stands in, whatever separates the parts. -/
theorem isWhole_color {separator : Char} (other : isWordChar separator = false)
    (isSeparator : separator ≠ '(') (c : Color) : IsWhole separator (color c).toList := by
  have name : isWord "rgba" = true := by decide
  have flat : ∀ c ∈ [',', ' '], c ≠ '(' ∧ c ≠ ')' := by simp
  have between : ", ".toList = [',', ' '] := String.toList_ofList
  rw [toList_color]
  apply Text.isWhole_call (isFlat_of_isWord name) (notMem_of_isWord name other) _ isSeparator
  intro letter member
  rcases Text.mem_intercalate member with inGap | ⟨text, inTexts, inText⟩
  · exact flat letter (between ▸ inGap)
  · rcases List.mem_map.mp inTexts with ⟨part, inParts, rfl⟩
    exact isFlat_of_isWord (isWord_of_mem_colorParts inParts) letter inText

/-! ## Rows of readings -/

/-- What is written item by item is read item by item. -/
theorem exists_mapM {α β : Type} {write : α → List Char} {read : List Char → Option β}
    {Says : α → β → Prop} {items : List α}
    (each : ∀ item ∈ items, ∃ reading, read (write item) = some reading ∧ Says item reading) :
    ∃ readings, (items.map write).mapM read = some readings ∧
      List.Forall₂ Says items readings := by
  induction items with
  | nil => exact ⟨[], rfl, .nil⟩
  | cons item items inductionHypothesis =>
      rw [List.forall_mem_cons] at each
      rcases each.1 with ⟨reading, read, said⟩
      rcases inductionHypothesis each.2 with ⟨readings, readAll, saidAll⟩
      refine ⟨reading :: readings, ?_, .cons said saidAll⟩
      rw [List.map_cons, List.mapM_cons, read, readAll]
      rfl

end Style
end Artboard
