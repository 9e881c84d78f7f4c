import Artboard.Text.Hex
import Artboard.Text.Utf8

/-!
# Percent encoding

A character is encoded as the bytes of its UTF-8 form, each as a percent sign
with two upper case digits.  Which characters are encoded depends on where in an
address they stand; control characters and characters outside ASCII always are.
-/

namespace Artboard
namespace Url

/-- An upper case hexadecimal digit. -/
def hexDigit (n : Nat) : Char :=
  if n < 10 then Char.ofNat ('0'.toNat + n) else Char.ofNat ('A'.toNat + (n - 10))

/-- A byte behind a percent sign. -/
def percentByte (byte : UInt8) : List Char :=
  ['%', hexDigit (byte.toNat / 16), hexDigit (byte.toNat % 16)]

/-- Encode the characters of a set. -/
def percentEncode (set : Char → Bool) (text : List Char) : List Char :=
  text.flatMap fun c => if set c then (String.utf8EncodeChar c).flatMap percentByte else [c]

/-- Characters that are encoded everywhere. -/
def isAlwaysEncoded (c : Char) : Bool :=
  c.toNat < 0x20 || 0x7E < c.toNat

/-- Characters encoded behind the number sign. -/
def inFragmentSet (c : Char) : Bool :=
  isAlwaysEncoded c || " \"<>`".toList.contains c

/-- Characters encoded behind the question mark. -/
def inQuerySet (c : Char) : Bool :=
  isAlwaysEncoded c || " \"#<>".toList.contains c

/-- Characters encoded behind the question mark when the scheme is a special
one. -/
def inSpecialQuerySet (c : Char) : Bool :=
  inQuerySet c || c == '\''

/-- Characters encoded in a path that is given as a whole. -/
def inPathSet (c : Char) : Bool :=
  inFragmentSet c || "#?\x7b\x7d".toList.contains c

/-- Characters encoded in a single segment, so that it stays one. -/
def inSegmentSet (c : Char) : Bool :=
  inPathSet c || c == '/' || c == '%'

/-- Characters encoded in a single segment when the scheme is a special one. -/
def inSpecialSegmentSet (c : Char) : Bool :=
  inSegmentSet c || c == '\\'

/-- Characters encoded in a user name or a password. -/
def inUserSet (c : Char) : Bool :=
  inPathSet c || "/:;=@[\\]^|".toList.contains c

/-- The bytes of a text whose percent signs with two digits stand for bytes. -/
def percentDecode : List Char → List UInt8
  | '%' :: a :: b :: rest =>
    match Text.hexValue? a, Text.hexValue? b with
    | some high, some low => UInt8.ofNat (high * 16 + low) :: percentDecode rest
    | _, _ => UInt8.ofNat '%'.toNat :: percentDecode (a :: b :: rest)
  | c :: rest => String.utf8EncodeChar c ++ percentDecode rest
  | [] => []

/-- Characters that stand for themselves in a form value. -/
def isFormPlain (c : Char) : Bool :=
  c.isAlphanum || "*-._".toList.contains c

/-- A name or value of a form: a blank becomes a plus sign. -/
def formEncode (text : List Char) : List Char :=
  text.flatMap fun c =>
    if c = ' ' then ['+']
    else if isFormPlain c then [c]
    else (String.utf8EncodeChar c).flatMap percentByte

/-- A name with its value. -/
def formPair (name value : String) : List Char :=
  formEncode name.toList ++ '=' :: formEncode value.toList

end Url
end Artboard
