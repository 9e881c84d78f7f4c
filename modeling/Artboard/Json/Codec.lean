import Artboard.Json.Basic
import Artboard.Json.Skip
import Artboard.Text.Quoted

/-!
# Codecs

A codec says how the values of one type are written as JSON and read back.  The
reader is told how many more brackets it may enter; a bracket that is one too
many is refused before it is read.

A value of the wrong kind is named in the fault.  For that it is read to its
end, except that lists and objects are named at their opening bracket.
-/

namespace Artboard
namespace Json

/-- How values of a type are read and written. -/
structure Codec (α : Type) where
  /-- Read a value while at most the given number of brackets is entered. -/
  read : Nat → Reader α
  write : α → Json

/-- How many brackets may be open at once. -/
def maxDepth : Nat := 127

/-- Read a whole text as one value. -/
def Codec.parse (codec : Codec α) (text : String) : Except Fault α :=
  readAll (codec.read maxDepth) text.toList

/-- What is left for the inside of a bracket, if the bracket may be entered. -/
def inside : Nat → Option Nat
  | 0 => none
  | budget + 1 => some budget

/-- Refuse the value that is next, whose kind is not the expected one. -/
def refuse (expected : String) : Reader α := do
  match ← peekToken with
  | none => failAhead .endOfValue
  | some '[' => failHere (.wrongKind "sequence" expected)
  | some '\x7b' => failHere (.wrongKind "map" expected)
  | some '"' =>
    let value ← quotedText
    failHere (.wrongKind ("string " ++ Text.quoted value) expected)
  | some 'n' => do advance; literal "ull".toList; failHere (.wrongKind "null" expected)
  | some 't' => do
    advance; literal "rue".toList; failHere (.wrongKind "boolean `true`" expected)
  | some 'f' => do
    advance; literal "alse".toList; failHere (.wrongKind "boolean `false`" expected)
  | some c =>
    if c = '-' ∨ c.isDigit then do
      failHere (.wrongKind (← readNumber).describe expected)
    else failAhead .expectedValue

def readBool : Reader Bool := do
  match ← peekToken with
  | some 't' => do advance; literal "rue".toList; return true
  | some 'f' => do advance; literal "alse".toList; return false
  | _ => refuse "a boolean"

def readText : Reader String := do
  match ← peekToken with
  | some '"' => quotedText
  | _ => refuse "a string"

/-- Read a number, whole or not, as a double. -/
def readFloat : Reader Float := do
  match ← peekToken with
  | some c =>
    if c = '-' ∨ c.isDigit then return (← readNumber).toFloat else refuse "f64"
  | none => refuse "f64"

def readNull : Reader Unit := do
  match ← peekToken with
  | some 'n' => do advance; literal "ull".toList
  | _ => refuse "unit"

/-- Whether another item follows inside a list. The item, or the closing
bracket, is next to be read. -/
def moreItems (isFirst : Bool) : Reader Bool := do
  match ← peekToken with
  | none => failAhead .endOfList
  | some ']' => return false
  | some c =>
    if isFirst then return true
    else if c = ',' then do
      advance
      match ← peekToken with
      | none => failAhead .endOfValue
      | some ']' => failAhead .trailingComma
      | some _ => return true
    else failAhead .expectedCommaInList

/-- Read items up to and including the closing bracket. There are fewer of them
than characters in the given text. -/
def readItems (item : Reader α) : List Char → Bool → Reader (List α)
  | [], _ => failAhead .endOfList
  | _ :: fuel, isFirst => do
    if ← moreItems isFirst then
      let value ← item
      let values ← readItems item fuel false
      return value :: values
    else do
      advance
      return []

def readList (item : Option (Reader α)) : Reader (List α) := do
  match ← peekToken with
  | some '[' =>
    match item with
    | none => failAhead .nestedTooDeep
    | some item => do
      advance
      readItems item (' ' :: (← get)) true
  | _ => refuse "a sequence"

/-- Whether another member follows inside an object. The quote of its key, or
the closing bracket, is next to be read. -/
def moreMembers (isFirst : Bool) : Reader Bool := do
  match ← peekToken with
  | none => failAhead .endOfObject
  | some '\x7d' => return false
  | some c =>
    if isFirst then
      if c = '"' then return true else failAhead .keyNotText
    else if c = ',' then do
      advance
      match ← peekToken with
      | none => failAhead .endOfValue
      | some '"' => return true
      | some '\x7d' => failAhead .trailingComma
      | some _ => failAhead .keyNotText
    else failAhead .expectedCommaInObject

/-- Read members up to and including the closing bracket. Each one continues,
from behind its key, what the earlier ones have made. There are fewer of them
than characters in the given text. -/
def readMembers (member : String → σ → Reader σ) : List Char → Bool → σ → Reader σ
  | [], _, _ => failAhead .endOfObject
  | _ :: fuel, isFirst, made => do
    if ← moreMembers isFirst then
      let key ← quotedText
      let made ← member key made
      readMembers member fuel false made
    else do
      advance
      return made

def readColon : Reader Unit := do
  match ← peekToken with
  | some ':' => advance
  | some _ => failAhead .expectedColon
  | none => failAhead .endOfObject

/-- Enter a value for a key, in place of an earlier one. -/
def enter (key : String) (value : α) (entries : List (String × α)) : List (String × α) :=
  entries.filter (fun entry => entry.1 != key) ++ [(key, value)]

/-- Read an object with keys of any name; of equal keys the last one counts. -/
def readEntries (value : Option (Reader α)) : Reader (List (String × α)) := do
  match ← peekToken with
  | some '\x7b' =>
    match value with
    | none => failAhead .nestedTooDeep
    | some value => do
      advance
      let member := fun key entries => do
        readColon
        return enter key (← value) entries
      readMembers member (' ' :: (← get)) true []
  | _ => refuse "a map"

namespace Codec

def bool : Codec Bool where
  read _ := readBool
  write := .bool

def text : Codec String where
  read _ := readText
  write := .text

def number : Codec Float where
  read _ := readFloat
  write := .number

def nullable (codec : Codec α) : Codec (Option α) where
  read budget := do
    match ← peekToken with
    | some 'n' => do advance; literal "ull".toList; return none
    | _ => return some (← codec.read budget)
  write
    | none => .null
    | some value => codec.write value

def list (codec : Codec α) : Codec (List α) where
  read budget := readList ((inside budget).map codec.read)
  write values := .list (values.map codec.write)

/-- Objects with keys of any name, as a list of entries. -/
def entries (codec : Codec α) : Codec (List (String × α)) where
  read budget := readEntries ((inside budget).map codec.read)
  write values := .object (values.map fun entry => (entry.1, codec.write entry.2))

end Codec

end Json
end Artboard
