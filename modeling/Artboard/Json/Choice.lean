import Artboard.Json.Codec

/-!
# Choices

A choice is one of a fixed set of names.  It is written as a text, and read
either from a text or from an object whose only member has the name as its key
and null as its value.  An open choice takes every other name for one
particular value; a closed one refuses it.
-/

namespace Artboard
namespace Json

/-- The names of a choice, in the order in which a fault lists them. -/
structure Choice (α : Type) where
  names : List (String × α)
  /-- What a name that is not listed stands for, if anything. -/
  other : Option α
  nameOf : α → String

namespace Choice

/-- The value that a name stands for. -/
def find? (choice : Choice α) (name : String) : Option α :=
  (choice.names.lookup name).or choice.other

def readName (choice : Choice α) : Reader α := do
  let name ← quotedText
  match choice.find? name with
  | some value => return value
  | none => failHere (.unknownVariant name (choice.names.map (·.1)))

/-- Read the object form from behind its opening bracket. -/
def readObject (choice : Choice α) : Reader α := do
  if !(← moreMembers true) then failAhead .expectedValue
  let value ← choice.readName
  readColon
  readNull
  match ← peekToken with
  | some '\x7d' => do advance; return value
  | some _ => failHere .expectedValue
  | none => failHere .endOfObject

def read (choice : Choice α) (budget : Nat) : Reader α := do
  match ← peekToken with
  | none => failAhead .endOfValue
  | some '"' => choice.readName
  | some '\x7b' =>
    match inside budget with
    | none => failAhead .nestedTooDeep
    | some _ => do advance; choice.readObject
  | some _ => failAhead .expectedValue

def codec (choice : Choice α) : Codec α where
  read := choice.read
  write value := .text (choice.nameOf value)

end Choice

end Json
end Artboard
