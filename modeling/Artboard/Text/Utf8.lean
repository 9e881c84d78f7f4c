/-!
# UTF-8

Texts as bytes and back.  Bytes that do not form a character become the
replacement character, one for each longest run that could have begun one.
-/

namespace Artboard
namespace Text

/-- The bytes of a text. -/
def toBytes (text : List Char) : List UInt8 :=
  text.flatMap String.utf8EncodeChar

/-- What stands for bytes that do not form a character. -/
def replacement : Char := '\ufffd'

/-- A character of which some bytes were read: the bits so far, how many bytes
are still to come, and the range in which the next one must lie. -/
structure PartialChar where
  bits : Nat
  missing : Nat
  lowest : Nat
  highest : Nat

/-- What a byte begins: a character, a part of one, or nothing. -/
inductive Lead where
  | char (c : Char)
  | part (pending : PartialChar)
  | stray

/-- The role of a byte at the start of a character. The second byte is held to
a narrower range where a longer form of a shorter character, a surrogate or a
code beyond the last one would follow. -/
def Lead.ofByte (byte : Nat) : Lead :=
  if byte < 0x80 then .char (Char.ofNat byte)
  else if byte < 0xC2 then .stray
  else if byte < 0xE0 then .part ⟨byte - 0xC0, 1, 0x80, 0xBF⟩
  else if byte < 0xF0 then
    .part ⟨byte - 0xE0, 2, if byte = 0xE0 then 0xA0 else 0x80,
      if byte = 0xED then 0x9F else 0xBF⟩
  else if byte < 0xF5 then
    .part ⟨byte - 0xF0, 3, if byte = 0xF0 then 0x90 else 0x80,
      if byte = 0xF4 then 0x8F else 0xBF⟩
  else .stray

/-- Decode bytes behind the given part of a character. -/
def decodeFrom : Option PartialChar → List UInt8 → List Char
  | none, [] => []
  | some _, [] => [replacement]
  | none, byte :: rest =>
    match Lead.ofByte byte.toNat with
    | .char c => c :: decodeFrom none rest
    | .part pending => decodeFrom (some pending) rest
    | .stray => replacement :: decodeFrom none rest
  | some pending, byte :: rest =>
    let n := byte.toNat
    if pending.lowest ≤ n ∧ n ≤ pending.highest then
      let bits := pending.bits * 64 + n % 64
      if pending.missing = 1 then Char.ofNat bits :: decodeFrom none rest
      else decodeFrom (some ⟨bits, pending.missing - 1, 0x80, 0xBF⟩) rest
    else
      match Lead.ofByte n with
      | .char c => replacement :: c :: decodeFrom none rest
      | .part next => replacement :: decodeFrom (some next) rest
      | .stray => replacement :: replacement :: decodeFrom none rest

/-- The text of bytes. -/
def ofBytes (bytes : List UInt8) : List Char :=
  decodeFrom none bytes

end Text
end Artboard
