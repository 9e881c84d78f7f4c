import Artboard.Json.Codec

/-!
# Records

A record is read from an object or from a list.  The object may hold its fields
in any order among members of other names, which are passed over; a field that
may be missing keeps its default, and no field may occur twice.  The list holds
the fields in the order of the record and may end early when only fields with a
default are left.

Either way the fields that were found are set in the order of the record on top
of a blank one that holds the defaults.  So the order of members in an object
has no bearing on the record read.
-/

namespace Artboard
namespace Json

/-- One field of a record of type `α`. -/
structure RecordField (α : Type) where
  name : String
  /-- Whether the record cannot do without the field. -/
  required : Bool
  /-- Read a value and say how it changes a record. -/
  read : Nat → Reader (α → α)
  write : α → Json

/-- The field that is read and written by a codec. -/
def Codec.field (codec : Codec β) (name : String) (required : Bool) (get : α → β)
    (set : β → α → α) : RecordField α where
  name := name
  required := required
  read budget := set <$> codec.read budget
  write record := codec.write (get record)

/-- A kind of record: its name in messages, the record of all defaults, and the
fields in order. -/
structure Record (α : Type) where
  name : String
  blank : α
  fields : List (RecordField α)

namespace Record

/-- Fields found in an object, by name. -/
abbrev Found (α : Type) := List (String × (α → α))

/-- Set the fields that were found, in the order given. Fails with the name of
the first required one that was not. -/
def assemble (found : Found α) : List (RecordField α) → α → Except String α
  | [], record => .ok record
  | field :: fields, record =>
    match found.lookup field.name with
    | some change => assemble found fields (change record)
    | none => if field.required then .error field.name else assemble found fields record

/-- Stop behind what would have closed an object, if it closes here. -/
def failClosingObject (cause : Cause) : Reader α := do
  if (← peekToken) = some '\x7d' then advance
  failHere cause

/-- Read the member with the given key from behind the key. -/
def readMember (fields : List (RecordField α)) (budget : Nat) (key : String) (found : Found α) :
    Reader (Found α) := do
  match fields.find? (·.name == key) with
  | none => do
    readColon
    skipValue
    return found
  | some field =>
    if (found.lookup key).isSome then failClosingObject (.duplicateField key)
    else do
      readColon
      let change ← field.read budget
      return found ++ [(key, change)]

/-- Read the members of an object from behind its opening bracket. -/
def readObject (kind : Record α) (budget : Nat) : Reader α := do
  let found ← readMembers (readMember kind.fields budget) (' ' :: (← get)) true []
  match assemble found kind.fields kind.blank with
  | .ok record => return record
  | .error name => failHere (.missingField name)

/-- Nothing but the closing bracket may follow the last field of a list. -/
def closeList : Reader Unit := do
  match ← peekToken with
  | none => failAhead .endOfList
  | some ']' => advance
  | some ',' => do
    advance
    if (← peekToken) = some ']' then failAhead .trailingComma else failAhead .trailingCharacters
  | some _ => failAhead .trailingCharacters

/-- Read the fields of a list in order from behind its opening bracket or behind
an earlier field. `index` counts the fields already passed. -/
def readFields (kind : Record α) (budget : Nat) : Nat → List (RecordField α) → Bool → α → Reader α
  | _, [], _, record => do
    closeList
    return record
  | index, field :: fields, isFirst, record => do
    if ← moreItems isFirst then
      let change ← field.read budget
      readFields kind budget (index + 1) fields false (change record)
    else if field.required then do
      advance
      failHere (.tooShort index kind.name kind.fields.length)
    else readFields kind budget (index + 1) fields isFirst record

/-- Read a record in either form, given how many brackets its fields may enter
if its own may be entered. -/
def readWithin (kind : Record α) (budget : Option Nat) : Reader α := do
  match ← peekToken with
  | some '\x7b' =>
    match budget with
    | none => failAhead .nestedTooDeep
    | some budget => do advance; kind.readObject budget
  | some '[' =>
    match budget with
    | none => failAhead .nestedTooDeep
    | some budget => do advance; kind.readFields budget 0 kind.fields true kind.blank
  | _ => refuse ("struct " ++ kind.name)

/-- A record as an object with every field in order. -/
def write (kind : Record α) (record : α) : Json :=
  .object (kind.fields.map fun field => (field.name, field.write record))

/-- The codec of a kind of record. -/
def codec (kind : Record α) : Codec α where
  read budget := kind.readWithin (inside budget)
  write := kind.write

end Record

end Json
end Artboard
