import Mathlib.Tactic.SplitIfs
import Artboard.Text.Utf8

/-!
# Bytes as text

The bytes of a text are read as that text.  Of bytes in general it is said how much text
they can become: the reader is between two characters or has begun one, and a byte gives at
most one character, counting the one that is begun.  The bytes of a character give no more
than that either, because no other character is continued by them.
-/

namespace Artboard
namespace Text

/-! ## One byte -/

/-- A part of a character that goes on with bytes that do not begin any. -/
def PartialChar.IsProper (pending : PartialChar) : Prop :=
  0x80 ≤ pending.lowest ∧ pending.highest ≤ 0xBF

theorem isProper_of_ofByte {n : Nat} {pending : PartialChar}
    (begins : Lead.ofByte n = .part pending) : pending.IsProper := by
  unfold Lead.ofByte at begins
  split_ifs at begins
  all_goals
    rw [← Lead.part.inj begins]
    constructor <;> simp

theorem decodeFrom_none (byte : UInt8) (rest : List UInt8) :
    decodeFrom none (byte :: rest) =
      match Lead.ofByte byte.toNat with
      | .char c => c :: decodeFrom none rest
      | .part pending => decodeFrom (some pending) rest
      | .stray => replacement :: decodeFrom none rest :=
  rfl

theorem decodeFrom_continued {pending : PartialChar} {byte : UInt8}
    (continues : pending.lowest ≤ byte.toNat ∧ byte.toNat ≤ pending.highest)
    (rest : List UInt8) :
    decodeFrom (some pending) (byte :: rest) =
      if pending.missing = 1 then
        Char.ofNat (pending.bits * 64 + byte.toNat % 64) :: decodeFrom none rest
      else decodeFrom
        (some ⟨pending.bits * 64 + byte.toNat % 64, pending.missing - 1, 0x80, 0xBF⟩) rest := by
  rw [decodeFrom]
  exact if_pos continues

/-- A byte that does not continue a part is read on its own behind a replacement. -/
theorem decodeFrom_refused {pending : PartialChar} {byte : UInt8}
    (refused : ¬(pending.lowest ≤ byte.toNat ∧ byte.toNat ≤ pending.highest))
    (rest : List UInt8) :
    decodeFrom (some pending) (byte :: rest) = replacement :: decodeFrom none (byte :: rest) := by
  rw [decodeFrom_none, decodeFrom]
  dsimp only
  rw [if_neg refused]
  cases Lead.ofByte byte.toNat <;> rfl

theorem decodeFrom_lead {n : Nat} {pending : PartialChar} (small : n < 256)
    (begins : Lead.ofByte n = .part pending) (rest : List UInt8) :
    decodeFrom none (UInt8.ofNat n :: rest) = decodeFrom (some pending) rest := by
  have value : (UInt8.ofNat n).toNat = n := by
    rw [UInt8.toNat_ofNat', Nat.mod_eq_of_lt small]
  rw [decodeFrom_none, value, begins]

theorem decodeFrom_inside {pending : PartialChar} {n : Nat} (small : n < 64)
    (low : pending.lowest ≤ n + 128) (high : n + 128 ≤ pending.highest) (rest : List UInt8) :
    decodeFrom (some pending) (UInt8.ofNat (n + 128) :: rest) =
      if pending.missing = 1 then Char.ofNat (pending.bits * 64 + n) :: decodeFrom none rest
      else decodeFrom (some ⟨pending.bits * 64 + n, pending.missing - 1, 0x80, 0xBF⟩) rest := by
  have value : (UInt8.ofNat (n + 128)).toNat = n + 128 := by
    rw [UInt8.toNat_ofNat']
    omega
  have bits : (n + 128) % 64 = n := by omega
  rw [decodeFrom_continued (by omega), value, bits]

/-! ## The bytes of a character -/

variable {first second third fourth : Nat}

theorem decodeFrom_two (low : 2 ≤ first) (high : first < 32) (isSecond : second < 64)
    (rest : List UInt8) :
    decodeFrom none (UInt8.ofNat (first + 192) :: UInt8.ofNat (second + 128) :: rest) =
      Char.ofNat (first * 64 + second) :: decodeFrom none rest := by
  have begins : Lead.ofByte (first + 192) = .part ⟨first, 1, 0x80, 0xBF⟩ := by
    rw [Lead.ofByte, if_neg (by omega), if_neg (by omega), if_pos (by omega)]
    simp
  rw [decodeFrom_lead (by omega) begins, decodeFrom_inside isSecond (by simp) (by simp; omega)]
  rfl

/-- The second byte is held to the characters that need three bytes and are no
surrogates. -/
theorem decodeFrom_three (high : first < 16) (isSecond : second < 64) (isThird : third < 64)
    (long : first = 0 → 32 ≤ second) (noSurrogate : first = 13 → second < 32)
    (rest : List UInt8) :
    decodeFrom none (UInt8.ofNat (first + 224) :: UInt8.ofNat (second + 128) ::
        UInt8.ofNat (third + 128) :: rest) =
      Char.ofNat ((first * 64 + second) * 64 + third) :: decodeFrom none rest := by
  have begins : Lead.ofByte (first + 224) =
      .part ⟨first, 2, if first = 0 then 0xA0 else 0x80, if first = 13 then 0x9F else 0xBF⟩ := by
    rw [Lead.ofByte, if_neg (by omega), if_neg (by omega), if_neg (by omega), if_pos (by omega)]
    simp
  have lowest : (if first = 0 then 0xA0 else 0x80) ≤ second + 128 := by split_ifs <;> omega
  have highest : second + 128 ≤ (if first = 13 then 0x9F else 0xBF) := by split_ifs <;> omega
  rw [decodeFrom_lead (by omega) begins, decodeFrom_inside isSecond lowest highest,
    if_neg (by simp), decodeFrom_inside isThird (by simp) (by simp; omega)]
  rfl

/-- The second byte is held to the characters that need four bytes and to those there
are. -/
theorem decodeFrom_four (high : first < 5) (isSecond : second < 64) (isThird : third < 64)
    (isFourth : fourth < 64) (long : first = 0 → 16 ≤ second) (last : first = 4 → second < 16)
    (rest : List UInt8) :
    decodeFrom none (UInt8.ofNat (first + 240) :: UInt8.ofNat (second + 128) ::
        UInt8.ofNat (third + 128) :: UInt8.ofNat (fourth + 128) :: rest) =
      Char.ofNat (((first * 64 + second) * 64 + third) * 64 + fourth) ::
        decodeFrom none rest := by
  have begins : Lead.ofByte (first + 240) =
      .part ⟨first, 3, if first = 0 then 0x90 else 0x80, if first = 4 then 0x8F else 0xBF⟩ := by
    rw [Lead.ofByte, if_neg (by omega), if_neg (by omega), if_neg (by omega), if_neg (by omega),
      if_pos (by omega)]
    simp
  have lowest : (if first = 0 then 0x90 else 0x80) ≤ second + 128 := by split_ifs <;> omega
  have highest : second + 128 ≤ (if first = 4 then 0x8F else 0xBF) := by split_ifs <;> omega
  rw [decodeFrom_lead (by omega) begins, decodeFrom_inside isSecond lowest highest,
    if_neg (by simp), decodeFrom_inside isThird (by simp) (by simp; omega), if_neg (by simp),
    decodeFrom_inside isFourth (by simp) (by simp; omega)]
  rfl

theorem decodeFrom_char (c : Char) (rest : List UInt8) :
    decodeFrom none (String.utf8EncodeChar c ++ rest) = c :: decodeFrom none rest := by
  have valid : c.val.toNat < 0xD800 ∨ 0xDFFF < c.val.toNat ∧ c.val.toNat < 0x110000 := c.valid
  have isChar : ∀ n, n = c.val.toNat → Char.ofNat n = c := by
    intro n same
    rw [same]
    exact Char.ofNat_toNat c
  rw [String.utf8EncodeChar]
  split_ifs with one two three
  · have value : (UInt8.ofNat c.val.toNat).toNat = c.val.toNat := by
      rw [UInt8.toNat_ofNat', Nat.mod_eq_of_lt (by omega)]
    have begins : Lead.ofByte c.val.toNat = .char c := by
      rw [Lead.ofByte, if_pos (by omega), isChar _ rfl]
    rw [List.singleton_append, decodeFrom_none, value, begins]
  · rw [List.cons_append, List.singleton_append,
      decodeFrom_two (by omega) (by omega) (by omega), isChar _ (by omega)]
  · rw [List.cons_append, List.cons_append, List.singleton_append,
      decodeFrom_three (by omega) (by omega) (by omega) (by omega) (by omega),
      isChar _ (by omega)]
  · rw [List.cons_append, List.cons_append, List.cons_append, List.singleton_append,
      decodeFrom_four (by omega) (by omega) (by omega) (by omega) (by omega) (by omega),
      isChar _ (by omega)]

theorem ofBytes_toBytes (text : List Char) : ofBytes (toBytes text) = text := by
  induction text with
  | nil => rfl
  | cons c text inductionHypothesis =>
      rw [ofBytes, toBytes, List.flatMap_cons, decodeFrom_char]
      exact congrArg (c :: ·) inductionHypothesis

/-! ## How much text bytes become -/

/-- The number of characters that have been begun. -/
def begun (state : Option PartialChar) : Nat :=
  state.toList.length

theorem exists_decodeFrom_byte {state : Option PartialChar}
    (proper : ∀ pending ∈ state, pending.IsProper) (byte : UInt8) :
    ∃ read next, (∀ rest, decodeFrom state (byte :: rest) = read ++ decodeFrom next rest) ∧
      read.length + begun next ≤ begun state + 1 ∧ ∀ pending ∈ next, pending.IsProper := by
  have alone : ∃ read next, (∀ rest, decodeFrom none (byte :: rest) = read ++ decodeFrom next rest) ∧
      read.length + begun next ≤ 1 ∧ ∀ pending ∈ next, pending.IsProper := by
    cases begins : Lead.ofByte byte.toNat with
    | char c =>
        refine ⟨[c], none, fun rest => ?_, by simp [begun], by simp⟩
        rw [decodeFrom_none, begins]
        rfl
    | part pending =>
        refine ⟨[], some pending, fun rest => ?_, by simp [begun], ?_⟩
        · rw [decodeFrom_none, begins]
          rfl
        · simpa using isProper_of_ofByte begins
    | stray =>
        refine ⟨[replacement], none, fun rest => ?_, by simp [begun], by simp⟩
        rw [decodeFrom_none, begins]
        rfl
  cases state with
  | none => exact alone
  | some pending =>
      by_cases continues : pending.lowest ≤ byte.toNat ∧ byte.toNat ≤ pending.highest
      · by_cases last : pending.missing = 1
        · refine ⟨[Char.ofNat (pending.bits * 64 + byte.toNat % 64)], none, fun rest => ?_,
            by simp [begun], by simp⟩
          rw [decodeFrom_continued continues, if_pos last]
          rfl
        · refine ⟨[], some ⟨pending.bits * 64 + byte.toNat % 64, pending.missing - 1, 0x80, 0xBF⟩,
            fun rest => ?_, by simp [begun], ?_⟩
          · rw [decodeFrom_continued continues, if_neg last]
            rfl
          · simp [PartialChar.IsProper]
      · rcases alone with ⟨read, next, reads, bound, properNext⟩
        refine ⟨replacement :: read, next, fun rest => ?_, ?_, properNext⟩
        · rw [decodeFrom_refused continues, reads]
          rfl
        · simp only [begun, List.length_cons, Option.toList_some] at bound ⊢
          omega

/-- The first byte of a character is none that continues another. -/
theorem exists_head_utf8EncodeChar (c : Char) :
    ∃ byte rest, String.utf8EncodeChar c = byte :: rest ∧
      (byte.toNat < 0x80 ∨ 0xC0 ≤ byte.toNat) := by
  have valid : c.val.toNat < 0xD800 ∨ 0xDFFF < c.val.toNat ∧ c.val.toNat < 0x110000 := c.valid
  rw [String.utf8EncodeChar]
  split_ifs with one two three
  all_goals
    refine ⟨_, _, rfl, ?_⟩
    rw [UInt8.toNat_ofNat']
    omega

theorem exists_decodeFrom_char {state : Option PartialChar}
    (proper : ∀ pending ∈ state, pending.IsProper) (c : Char) :
    ∃ read, (∀ rest, decodeFrom state (String.utf8EncodeChar c ++ rest) =
        read ++ decodeFrom none rest) ∧
      read.length ≤ begun state + 1 := by
  cases state with
  | none => exact ⟨[c], decodeFrom_char c, by simp [begun]⟩
  | some pending =>
      refine ⟨[replacement, c], fun rest => ?_, by simp [begun]⟩
      rcases exists_head_utf8EncodeChar c with ⟨byte, others, bytes, outside⟩
      rcases proper pending rfl with ⟨low, high⟩
      have whole := decodeFrom_char c rest
      rw [bytes, List.cons_append] at whole ⊢
      rw [decodeFrom_refused (by omega), whole]
      rfl

end Text
end Artboard
