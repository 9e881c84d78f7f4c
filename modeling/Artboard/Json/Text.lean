import Artboard.Json.Reader
import Artboard.Text.Hex

/-!
# Texts

The inside of a quoted text, from behind the opening quote to behind the closing
one.  Escapes that name a code outside the basic plane come in pairs, a high
surrogate followed by a low one.
-/

namespace Artboard
namespace Json

/-- The code named by four hexadecimal digits. -/
def hexCode? (a b c d : Char) : Option Nat := do
  let a ← Text.hexValue? a
  let b ← Text.hexValue? b
  let c ← Text.hexValue? c
  let d ← Text.hexValue? d
  return ((a * 16 + b) * 16 + c) * 16 + d

/-- The fault of a code that is not four hexadecimal digits. Four bytes count
as read when there are that many, else all of them. -/
def codeFault (rest : List Char) : Fault :=
  if byteCount rest < 4 then ⟨.endOfText, 0⟩ else ⟨.invalidEscape, byteCount rest - 4⟩

/-- The character that a one-letter escape stands for. -/
def shortEscape? : Char → Option Char
  | '"' => some '"'
  | '\\' => some '\\'
  | '/' => some '/'
  | 'b' => some '\x08'
  | 'f' => some '\x0c'
  | 'n' => some '\n'
  | 'r' => some '\r'
  | 't' => some '\t'
  | _ => none

/-- Codes that open a pair. -/
def isHighSurrogate (code : Nat) : Bool :=
  0xD800 ≤ code && code ≤ 0xDBFF

/-- Codes that close a pair. -/
def isLowSurrogate (code : Nat) : Bool :=
  0xDC00 ≤ code && code ≤ 0xDFFF

/-- The character named by a pair. -/
def pairedChar (high low : Nat) : Char :=
  Char.ofNat (0x10000 + (high - 0xD800) * 0x400 + (low - 0xDC00))

/-- The fault of a high surrogate that no further code follows. -/
def pairFault (rest : List Char) : Fault :=
  match rest with
  | [] => ⟨.endOfText, 0⟩
  | '\\' :: [] => ⟨.endOfText, 0⟩
  | '\\' :: 'u' :: tail => codeFault tail
  | '\\' :: tail => ⟨.unpairedSurrogate, byteCount tail - 1⟩
  | _ => ⟨.unpairedSurrogate, byteCount rest - 1⟩

/-- Put a character in front of a text that was read. -/
def prependChar (c : Char) (read : Except Fault (List Char × List Char)) :
    Except Fault (List Char × List Char) :=
  read.map fun found => (c :: found.1, found.2)

/-- Read a text from behind its opening quote. -/
def textBody : List Char → Except Fault (List Char × List Char)
  | [] => .error ⟨.endOfText, 0⟩
  | '"' :: rest => .ok ([], rest)
  | '\\' :: 'u' :: a :: b :: c :: d :: rest =>
    match hexCode? a b c d with
    | none => .error (codeFault (a :: b :: c :: d :: rest))
    | some code =>
      if isLowSurrogate code then .error ⟨.loneSurrogate, byteCount rest⟩
      else if isHighSurrogate code then
        match rest with
        | '\\' :: 'u' :: e :: f :: g :: h :: tail =>
          match hexCode? e f g h with
          | none => .error (codeFault (e :: f :: g :: h :: tail))
          | some low =>
            if isLowSurrogate low then prependChar (pairedChar code low) (textBody tail)
            else .error ⟨.loneSurrogate, byteCount tail⟩
        | rest => .error (pairFault rest)
      else prependChar (Char.ofNat code) (textBody rest)
  | '\\' :: 'u' :: rest => .error (codeFault rest)
  | '\\' :: [] => .error ⟨.endOfText, 0⟩
  | '\\' :: c :: rest =>
    match shortEscape? c with
    | some plain => prependChar plain (textBody rest)
    | none => .error ⟨.invalidEscape, byteCount (c :: rest) - 1⟩
  | c :: rest =>
    if c.toNat < 0x20 then .error ⟨.controlCharacter, byteCount rest⟩
    else prependChar c (textBody rest)

/-- Pass over a text from behind its opening quote. Escapes must be well formed
but surrogates need not pair, and a control character is not read. -/
def skipTextBody : List Char → Except Fault (Unit × List Char)
  | [] => .error ⟨.endOfText, 0⟩
  | '"' :: rest => .ok ((), rest)
  | '\\' :: 'u' :: a :: b :: c :: d :: rest =>
    if (hexCode? a b c d).isSome then skipTextBody rest
    else .error (codeFault (a :: b :: c :: d :: rest))
  | '\\' :: 'u' :: rest => .error (codeFault rest)
  | '\\' :: [] => .error ⟨.endOfText, 0⟩
  | '\\' :: c :: rest =>
    if (shortEscape? c).isSome then skipTextBody rest
    else .error ⟨.invalidEscape, byteCount (c :: rest) - 1⟩
  | c :: rest =>
    if c.toNat < 0x20 then .error ⟨.controlCharacter, byteCount (c :: rest)⟩
    else skipTextBody rest

/-- The text behind an opening quote that is next to be read. -/
def quotedText : Reader String := do
  advance
  let body ← (textBody : Reader (List Char))
  return String.ofList body

/-- Pass over the text behind an opening quote that is next to be read. -/
def skipQuotedText : Reader Unit := do
  advance
  (skipTextBody : Reader Unit)

end Json
end Artboard
