import Artboard.Json.Codec

/-!
# Reading any value

The reader for texts whose content is not known in advance.  It enters as many
brackets as the typed readers do.
-/

namespace Artboard
namespace Json

/-- Read any value, given how to read the values inside it if its bracket may
be entered. -/
def readValueWith (inner : Option (Reader Json)) : Reader Json := do
  match ← peekToken with
  | none => failAhead .endOfValue
  | some 'n' => do advance; literal "ull".toList; return .null
  | some 't' => do advance; literal "rue".toList; return .bool true
  | some 'f' => do advance; literal "alse".toList; return .bool false
  | some '"' => return .text (← quotedText)
  | some '[' => return .list (← readList inner)
  | some '\x7b' => return .object (← readEntries inner)
  | some c =>
    if c = '-' ∨ c.isDigit then
      match ← readNumber with
      | .whole value => return .integer value
      | .real value => return .number value
    else failAhead .expectedValue

/-- Read any value that enters at most the given number of brackets. -/
def readValue : Nat → Reader Json
  | 0 => readValueWith none
  | budget + 1 => readValueWith (some (readValue budget))

def Codec.any : Codec Json where
  read := readValue
  write value := value

/-- Read a whole text as a value. -/
def parse (text : String) : Except Fault Json :=
  Codec.any.parse text

end Json
end Artboard
