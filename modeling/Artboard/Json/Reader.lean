import Artboard.Json.Fault

/-!
# Readers

A reader takes a value off the front of a text and leaves the rest, or stops
with a fault.  A fault is raised either *here*, behind what has been read, or at
the byte *ahead*, the first one not read; at the end of the text the two places
are the same.
-/

namespace Artboard
namespace Json

/-- What a reader does to a text. -/
abbrev Reader := StateT (List Char) (Except Fault)

/-- Stop behind what has been read. -/
def failHere (cause : Cause) : Reader α :=
  fun rest => .error ⟨cause, byteCount rest⟩

/-- Stop at the byte ahead. -/
def failAhead (cause : Cause) : Reader α :=
  fun rest => .error ⟨cause, byteCount rest - 1⟩

/-- The blank characters between tokens. -/
def isGap (c : Char) : Bool :=
  c == ' ' || c == '\n' || c == '\t' || c == '\r'

/-- Read blanks, then show the next character without reading it. -/
def peekToken : Reader (Option Char) :=
  fun rest =>
    let rest := rest.dropWhile isGap
    .ok (rest.head?, rest)

def advance : Reader Unit :=
  fun rest => .ok ((), rest.tail)

/-- Read the given letters. The first byte that differs counts as read. -/
def literal : List Char → Reader Unit
  | [] => pure ()
  | letter :: letters => fun rest =>
    match rest with
    | [] => .error ⟨.endOfValue, 0⟩
    | c :: tail =>
      if c = letter then literal letters tail
      else .error ⟨.expectedLiteral, byteCount rest - 1⟩

/-- Nothing but blanks may follow. -/
def endOfInput : Reader Unit := do
  if (← peekToken).isSome then failAhead .trailingCharacters

def readAll (reader : Reader α) (text : List Char) : Except Fault α :=
  (do let value ← reader; endOfInput; return value : Reader α).run' text

end Json
end Artboard
