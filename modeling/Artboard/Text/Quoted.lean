import Artboard.Text.Printable

/-!
# Quoted text

The form in which messages show a text they were given: between double quotes,
with everything that could be mistaken or would not show written as an escape.
-/

namespace Artboard
namespace Text

/-- One character inside the quotes. Unprintable characters and marks that
attach to the character before them are written by their code. -/
def quoteChar (c : Char) : List Char :=
  match c with
  | '"' => ['\\', '"']
  | '\\' => ['\\', '\\']
  | '\n' => ['\\', 'n']
  | '\r' => ['\\', 'r']
  | '\t' => ['\\', 't']
  | '\x00' => ['\\', '0']
  | c =>
    if isPrintable c then [c]
    else ['\\', 'u', '\x7b'] ++ Nat.toDigits 16 c.toNat ++ ['\x7d']

/-- A text between double quotes. -/
def quoted (text : String) : String :=
  String.ofList ('"' :: (text.toList.flatMap quoteChar ++ ['"']))

end Text
end Artboard
