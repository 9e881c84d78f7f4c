import Artboard.Json.Number
import Artboard.Json.Text

/-!
# Passing over values

The value of a member that no one asked for is scanned for its grammar only.
Nesting is kept on an explicit stack and has no limit, and a comma may stand
where the grammar of a value or a key will refuse what follows it.
-/

namespace Artboard
namespace Json

/-- The two kinds of brackets. -/
inductive Bracket where
  | list
  | object
  deriving DecidableEq, Repr

def Bracket.closer : Bracket → Char
  | .list => ']'
  | .object => '\x7d'

/-- The fault of a text that ends inside a bracket. -/
def Bracket.unclosed : Bracket → Cause
  | .list => .endOfList
  | .object => .endOfObject

/-- The fault of a value that neither a comma nor the bracket follows. -/
def Bracket.unseparated : Bracket → Cause
  | .list => .expectedCommaInList
  | .object => .expectedCommaInObject

/-- Pass over a key and its colon. -/
def skipKey : Reader Unit := do
  match ← peekToken with
  | some '"' => skipQuotedText
  | some _ => failAhead .keyNotText
  | none => failAhead .endOfObject
  match ← peekToken with
  | some ':' => advance
  | some _ => failAhead .expectedColon
  | none => failAhead .endOfObject

/-- Pass over what leads up to the next value inside a bracket. -/
def skipLead : Bracket → Reader Unit
  | .list => pure ()
  | .object => skipKey

/-- Read an opening bracket and what leads up to the first value inside, or the
closing bracket if there is none. Says whether there is one. -/
def openBracket (bracket : Bracket) : Reader Bool := do
  advance
  match ← peekToken with
  | none => failAhead bracket.unclosed
  | some c =>
    if c = bracket.closer then do
      advance
      return false
    else do
      skipLead bracket
      return true

mutual

/-- Pass over a value inside the open brackets, then over what follows it. Every
step reads a character, so there are fewer steps than characters in the given
text. -/
def skipValueWithin : List Char → List Bracket → Reader Unit
  | [], _ => failAhead .endOfValue
  | _ :: fuel, brackets => do
    match ← peekToken with
    | none => failAhead .endOfValue
    | some '[' => do
      if ← openBracket .list then skipValueWithin fuel (.list :: brackets)
      else skipNextWithin fuel brackets
    | some '\x7b' => do
      if ← openBracket .object then skipValueWithin fuel (.object :: brackets)
      else skipNextWithin fuel brackets
    | some '"' => do skipQuotedText; skipNextWithin fuel brackets
    | some 'n' => do advance; literal "ull".toList; skipNextWithin fuel brackets
    | some 't' => do advance; literal "rue".toList; skipNextWithin fuel brackets
    | some 'f' => do advance; literal "alse".toList; skipNextWithin fuel brackets
    | some c =>
      if c = '-' ∨ c.isDigit then do skipNumber; skipNextWithin fuel brackets
      else failAhead .expectedValue

/-- Close brackets as long as they end here, then pass over the next value of
the innermost open one. -/
def skipNextWithin : List Char → List Bracket → Reader Unit
  | _, [] => pure ()
  | [], _ => failAhead .endOfValue
  | _ :: fuel, bracket :: outer => do
    match ← peekToken with
    | none => failAhead bracket.unclosed
    | some c =>
      if c = bracket.closer then do advance; skipNextWithin fuel outer
      else if c = ',' then do
        advance
        skipLead bracket
        skipValueWithin fuel (bracket :: outer)
      else failAhead bracket.unseparated

end

def skipValue : Reader Unit := do
  skipValueWithin (' ' :: (← get)) []

end Json
end Artboard
