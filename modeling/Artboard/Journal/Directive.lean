import Artboard.Journal.Event
import Artboard.Journal.Pattern
import Artboard.Text.Alphanumeric
import Artboard.Text.Lowercase

/-!
# Directives

A directive says up to which level something is shown.  It is written
`part[stretch{field}]=level`, and everything but one of these may be left out: the
part of the program, a stretch of its work in brackets, a field that must be there
in braces, and the level.  This program reports events only and has no stretches,
so that directives for a stretch, or for a value of a field of one, never apply.
-/

namespace Artboard

/-- What a directive lets through. -/
structure LevelLimit where
  /-- The rank of the last level that is shown; zero shows nothing. -/
  rank : Nat
  deriving DecidableEq, Repr

namespace LevelLimit

/-- The limit that lets everything through. -/
def everything : LevelLimit := ⟨5⟩

/-- The limit that a number from 0 to 5 names. A plus sign may stand before it. -/
def ofNumber? (word : List Char) : Option LevelLimit :=
  let digits := if word.head? = some '+' then word.drop 1 else word
  if digits.isEmpty || !digits.all Char.isDigit then none
  else
    let rank := digits.foldl (fun value c => value * 10 + (c.toNat - '0'.toNat)) 0
    if rank ≤ 5 then some ⟨rank⟩ else none

/-- The limit that a number or a word names, in letters of any case. -/
def ofWord? (word : List Char) : Option LevelLimit :=
  let names := ["off", "error", "warn", "info", "debug", "trace"]
  let small := String.ofList (Text.lowercaseAscii word)
  ofNumber? word <|> (names.idxOf? small).map LevelLimit.mk

end LevelLimit

/-- A field that must be there, perhaps with a value. -/
structure FieldTest where
  name : String
  value : Option String
  deriving DecidableEq, Repr

/-- Read what is asked of a field. Behind a second equals sign nothing counts. -/
def FieldTest.ofText? (text : List Char) : Option FieldTest :=
  let (name, rest) := Text.cut '=' text
  match rest.map fun rest => (Text.cut '=' rest).1 with
  | none => some ⟨String.ofList name, none⟩
  | some value =>
    if Pattern.describesValue value then some ⟨String.ofList name, some (String.ofList value)⟩
    else none

/-- One part of a filter. The name of a part of the program may be empty, which is
where every name begins. -/
structure Directive where
  target : String
  /-- The stretch of work that a directive is for. -/
  stretch : Option String
  field : Option FieldTest
  limit : LevelLimit
  deriving DecidableEq, Repr

namespace Directive

def ofTarget (target : String) (limit : LevelLimit) : Directive :=
  ⟨target, none, none, limit⟩

/-! Blanks around a directive do not count when it is taken apart. But its pieces are
cut out of the whole text, by the places that they have without the blanks before
it: a blank at the start moves all pieces, and one at the end belongs to the last
of them. -/

/-- What may stand at the start of a directive besides a bracket. -/
def mayBegin (c : Char) : Bool :=
  Text.isAlphanumeric c || c == '-' || c == ':' || c == '_'

/-- The piece of a text from a place on. -/
def piece (text : List Char) (place length : Nat) : List Char :=
  (text.drop place).take length

/-- Read a level from a place on. No level shows everything. -/
def readLimit? (text : List Char) (place : Nat) : Option LevelLimit :=
  let word := text.drop place
  if word.isEmpty then some .everything else LevelLimit.ofWord? word

/-- Read what stands behind the bracket of a stretch: nothing or a level. -/
def readEnd? (text : List Char) (place : Nat) : List Char → Option LevelLimit
  | [] => some .everything
  | '=' :: _ => readLimit? text (place + 1)
  | _ => none

/-- Read a field from behind its brace. -/
def readField? (target : String) (stretch : Option String) (text : List Char) (place : Nat)
    (rest : List Char) : Option Directive := do
  let length := (rest.takeWhile (· != '}')).length
  match rest.drop length with
  | '}' :: ']' :: rest =>
    if length = 0 then none
    else
      let field ← FieldTest.ofText? (piece text place length)
      let limit ← readEnd? text (place + length + 2) rest
      return ⟨target, stretch, some field, limit⟩
  | _ => none

/-- Read a stretch from behind its bracket. A brace may follow its name, which may
be left out then. -/
def readStretch? (target : String) (text : List Char) (place : Nat) (rest : List Char) :
    Option Directive := do
  let length := (rest.takeWhile fun c => c != ']' && c != '{').length
  let name := String.ofList (piece text place length)
  match rest.drop length with
  | ']' :: rest =>
    return ⟨target, some name, none, ← readEnd? text (place + length + 1) rest⟩
  | '{' :: rest =>
    readField? target (if length = 0 then none else some name) text (place + length + 1) rest
  | _ => none

/-- Read a directive. A word alone is a level or, if it names none, a part of the
program of which everything is shown. -/
def read? (text : List Char) : Option Directive := do
  let core := Text.trim text
  match core with
  | [] => none
  | '[' :: rest => readStretch? "" text 1 rest
  | first :: _ =>
    if mayBegin first then
      let length := (core.takeWhile fun c => c != '=' && c != '[').length
      let target := String.ofList (piece text 0 length)
      match core.drop length with
      | [] =>
        match LevelLimit.ofWord? text with
        | some limit => return ofTarget "" limit
        | none => return ofTarget (String.ofList text) .everything
      | '=' :: _ => return ofTarget target (← readLimit? text (length + 1))
      | _ :: rest => readStretch? target text (length + 1) rest
    else none

/-- Whether a directive is about events, and not about stretches or their
values. -/
def isForEvents (directive : Directive) : Bool :=
  directive.stretch.isNone && directive.field.all (·.value.isNone)

/-- Whether a directive speaks of an event: its part reports it, and it has the
field. -/
def covers (directive : Directive) (event : Event) : Bool :=
  directive.target.toList.isPrefixOf event.target.toList &&
    directive.field.all fun field => event.fieldNames.contains field.name

/-- Whether a directive that speaks of the same event weighs at least as much as an
earlier one. The longer name of a part weighs more, then a field, then the greater
name of a field. -/
def outweighs (directive earlier : Directive) : Bool :=
  if directive.target.utf8ByteSize ≠ earlier.target.utf8ByteSize then
    earlier.target.utf8ByteSize < directive.target.utf8ByteSize
  else match directive.field, earlier.field with
    | none, none => true
    | none, some _ => false
    | some _, none => true
    | some field, some other => other.name ≤ field.name

end Directive

end Artboard
