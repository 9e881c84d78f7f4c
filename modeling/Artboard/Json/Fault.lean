/-!
# Reading faults

Why a text could not be read, and where.  A fault remembers how many bytes were
still unread when it was raised; line and column are worked out from the whole
text once, when the fault is described.
-/

namespace Artboard
namespace Json

/-- Why reading stopped. -/
inductive Cause where
  | endOfList
  | endOfObject
  | endOfText
  | endOfValue
  | expectedColon
  | expectedCommaInList
  | expectedCommaInObject
  | expectedLiteral
  | expectedValue
  | invalidEscape
  | invalidNumber
  | numberOutOfRange
  | controlCharacter
  | keyNotText
  | loneSurrogate
  | unpairedSurrogate
  | trailingComma
  | trailingCharacters
  | nestedTooDeep
  /-- A value of another kind than the expected one. -/
  | wrongKind (found expected : String)
  | missingField (name : String)
  | duplicateField (name : String)
  | unknownVariant (name : String) (known : List String)
  /-- A record written as a list ended after `found` of its `size` fields. -/
  | tooShort (found : Nat) (record : String) (size : Nat)
  deriving DecidableEq, Repr

/-- Names for a reader who may choose one of them. -/
def alternatives : List String → String
  | [] => "there are no variants"
  | [name] => "expected `" ++ name ++ "`"
  | [first, second] => "expected `" ++ first ++ "` or `" ++ second ++ "`"
  | names => "expected one of " ++ ", ".intercalate (names.map fun name => "`" ++ name ++ "`")

def Cause.message : Cause → String
  | .endOfList => "EOF while parsing a list"
  | .endOfObject => "EOF while parsing an object"
  | .endOfText => "EOF while parsing a string"
  | .endOfValue => "EOF while parsing a value"
  | .expectedColon => "expected `:`"
  | .expectedCommaInList => "expected `,` or `]`"
  | .expectedCommaInObject => "expected `,` or `\x7d`"
  | .expectedLiteral => "expected ident"
  | .expectedValue => "expected value"
  | .invalidEscape => "invalid escape"
  | .invalidNumber => "invalid number"
  | .numberOutOfRange => "number out of range"
  | .controlCharacter => "control character (\\u0000-\\u001F) found while parsing a string"
  | .keyNotText => "key must be a string"
  | .loneSurrogate => "lone leading surrogate in hex escape"
  | .unpairedSurrogate => "unexpected end of hex escape"
  | .trailingComma => "trailing comma"
  | .trailingCharacters => "trailing characters"
  | .nestedTooDeep => "recursion limit exceeded"
  | .wrongKind found expected => "invalid type: " ++ found ++ ", expected " ++ expected
  | .missingField name => "missing field `" ++ name ++ "`"
  | .duplicateField name => "duplicate field `" ++ name ++ "`"
  | .unknownVariant name known => "unknown variant `" ++ name ++ "`, " ++ alternatives known
  | .tooShort found record size =>
    "invalid length " ++ toString found ++ ", expected struct " ++ record ++ " with " ++
      toString size ++ (if size = 1 then " element" else " elements")

/-- A cause together with the number of bytes unread when it was raised. -/
structure Fault where
  cause : Cause
  unread : Nat
  deriving DecidableEq, Repr

/-- Bytes of a text in UTF-8. -/
def byteCount (text : List Char) : Nat :=
  text.foldr (fun c count => c.utf8Size + count) 0

/-- A place in a text: lines count from one, columns are bytes read since the
line began. -/
structure Position where
  line : Nat
  column : Nat
  deriving DecidableEq, Repr

/-- The place reached after reading the given number of bytes, from a place
already reached. -/
def Position.advance (start : Position) : List Char → Nat → Position
  | [], _ => start
  | c :: rest, bytes =>
    if bytes = 0 then start
    else if c = '\n' then Position.advance ⟨start.line + 1, 0⟩ rest (bytes - 1)
    else
      let step := min bytes c.utf8Size
      Position.advance ⟨start.line, start.column + step⟩ rest (bytes - step)

/-- Where in the text a fault was raised. -/
def Fault.position (text : List Char) (fault : Fault) : Position :=
  Position.advance ⟨1, 0⟩ text (byteCount text - fault.unread)

/-- The wording of a fault in a text. -/
def Fault.describe (text : List Char) (fault : Fault) : String :=
  let place := fault.position text
  fault.cause.message ++ " at line " ++ toString place.line ++ " column " ++
    toString place.column

end Json
end Artboard
