import Artboard.Text.Utf8

/-!
# Text on a terminal

A terminal does not show everything it is sent: control sequences that begin with
an escape character tell it what to do.  A message that goes elsewhere leaves them
out, so that only what a terminal would show is left.
-/

namespace Artboard
namespace Text
namespace Terminal

/-- What a terminal takes the next byte for. -/
inductive Mode where
  /-- Something to show. -/
  | ground
  /-- What follows an escape character. -/
  | escape
  /-- The end of a short sequence. -/
  | intermediate
  /-- A part of a sequence with numbers. -/
  | numbers
  /-- A part of a command, which a bell may end. -/
  | command
  /-- A part of a text that only an escape character ends. -/
  | string
  deriving DecidableEq, Repr

/-- Blank control characters, which move on in a line or to another one. -/
def isBlankControl (byte : Nat) : Bool :=
  byte == 0x09 || byte == 0x0A || byte == 0x0C || byte == 0x0D

/-- Bytes that continue a character. -/
def continues (byte : Nat) : Bool :=
  0x80 ≤ byte && byte < 0xC0

namespace Mode

/-- Whether a terminal shows a byte. Blanks also count in the middle of most
sequences. -/
def shows (mode : Mode) (byte : Nat) : Bool :=
  if byte < 0x20 then isBlankControl byte && mode != command && mode != string
  else mode == ground && byte != 0x7F

/-- What a terminal takes the next byte for after an escape character and a
byte. -/
def afterEscape (byte : Nat) : Mode :=
  if byte < 0x20 || 0x7E < byte then escape
  else if byte < 0x30 then intermediate
  else if byte == 0x5B then numbers
  else if byte == 0x5D then command
  else if byte == 0x50 || byte == 0x58 || byte == 0x5E || byte == 0x5F then string
  else ground

/-- What a terminal takes the next byte for after one that it does not show. Two
control characters break off whatever was begun. -/
def after (mode : Mode) (byte : Nat) : Mode :=
  if byte == 0x1B then escape
  else if byte == 0x18 || byte == 0x1A then ground
  else match mode with
    | ground => ground
    | escape => afterEscape byte
    | intermediate => if 0x30 ≤ byte && byte ≤ 0x7E then ground else intermediate
    | numbers => if 0x40 ≤ byte && byte ≤ 0x7E then ground else numbers
    | command => if byte == 0x07 then ground else command
    | string => string

end Mode

/-- The bytes that a terminal shows. Where `keepTails` is set, bytes that continue
a character always show, also when the byte before them did not. -/
def shownBytes (keepTails : Bool) : Mode → List UInt8 → List UInt8
  | _, [] => []
  | mode, byte :: rest =>
    if mode.shows byte.toNat || (keepTails && continues byte.toNat) then
      byte :: shownBytes keepTails .ground rest
    else shownBytes keepTails (mode.after byte.toNat) rest

/-- What a terminal shows of a text. -/
def shown (keepTails : Bool) (text : String) : String :=
  String.ofList (ofBytes (shownBytes keepTails .ground (toBytes text.toList)))

/-- A text that a terminal sets off from what is around it. -/
def highlight (text : String) : String :=
  "\x1b[1m" ++ text ++ "\x1b[0m"

end Terminal
end Text
end Artboard
