import Artboard.Markup.Tree

/-!
# Reading markup

A strict reader for the markup that the printer writes.  It goes through the text
one character at a time and keeps what it is in the middle of, so reading a text
is a fold and reading two texts in a row is reading the first and then the second.

The reader knows start tags with attributes between double quotes, end tags, and
tags that close themselves.  An end tag has to name the innermost open element.
In text and in values the five entities stand for their characters, and `br`
without attributes is a line break of the text around it.  Everything else is
refused: a name with other characters than letters and digits, an unknown entity,
a bare angle bracket, and an element that is still open at the end.
-/

namespace Artboard
namespace Markup

def isNameChar (c : Char) : Bool :=
  c.isAlphanum

def entities : List (List Char × Char) :=
  [("amp".toList, '&'), ("lt".toList, '<'), ("gt".toList, '>'), ("quot".toList, '"'),
    ("#39".toList, '\'')]

/-- A tag that is being read, with the attributes read so far. -/
structure Head where
  tag : List Char
  attributes : List Attribute

def Head.push (head : Head) (name value : List Char) : Head :=
  { head with
    attributes := head.attributes ++ [⟨String.ofList name, String.ofList value⟩] }

/-- An element that has been opened, and what stands before it on its level. -/
structure Opened where
  head : Head
  before : List Tree

/-- What the reader is in the middle of.  The gap is the place behind the blank before an
attribute or before a closing slash. -/
inductive Mode where
  | content
  | textEntity (name : List Char)
  | bracket
  | tag (tag : List Char)
  | gap (head : Head)
  | attributeName (head : Head) (name : List Char)
  | equals (head : Head) (name : List Char)
  | value (head : Head) (name value : List Char)
  | valueEntity (head : Head) (name value entity : List Char)
  | behindValue (head : Head)
  | slash (head : Head)
  | endTag (tag : List Char)
  | refused

/-- What has been read: the open elements, innermost first, the complete trees of the
innermost level and the text behind these trees. -/
structure Reader where
  opened : List Opened
  trees : List Tree
  text : List Char
  mode : Mode

namespace Reader

def start : Reader := ⟨[], [], [], .content⟩

def flushed (reader : Reader) : List Tree :=
  if reader.text.isEmpty then reader.trees
  else reader.trees ++ [.text (String.ofList reader.text)]

def goOn (reader : Reader) (mode : Mode) : Reader :=
  { reader with mode := mode }

def addChar (reader : Reader) (c : Char) : Reader :=
  { reader with text := reader.text ++ [c], mode := .content }

def addTree (reader : Reader) (tree : Tree) : Reader :=
  { reader with trees := reader.flushed ++ [tree], text := [], mode := .content }

def openElement (reader : Reader) (head : Head) : Reader :=
  ⟨⟨head, reader.flushed⟩ :: reader.opened, [], [], .content⟩

/-- The innermost element is complete if it has the tag of the end tag. -/
def closeElement (reader : Reader) (tag : List Char) : Reader :=
  match reader.opened with
  | [] => reader.goOn .refused
  | ⟨head, before⟩ :: outer =>
    if head.tag = tag then
      ⟨outer, before ++ [.element (String.ofList tag) head.attributes reader.flushed], [],
        .content⟩
    else reader.goOn .refused

/-- A start tag is complete. -/
def closeTag (reader : Reader) (head : Head) : Reader :=
  if head.tag = "br".toList ∧ head.attributes = [] then reader.addChar '\n'
  else reader.openElement head

def step (reader : Reader) (c : Char) : Reader :=
  match reader.mode with
  | .content =>
    if c = '<' then reader.goOn .bracket
    else if c = '&' then reader.goOn (.textEntity [])
    else if c = '>' then reader.goOn .refused
    else reader.addChar c
  | .textEntity name =>
    if c = ';' then
      match entities.lookup name with
      | some meant => reader.addChar meant
      | none => reader.goOn .refused
    else reader.goOn (.textEntity (name ++ [c]))
  | .bracket =>
    if c = '/' then reader.goOn (.endTag [])
    else if isNameChar c then reader.goOn (.tag [c])
    else reader.goOn .refused
  | .tag tag =>
    if isNameChar c then reader.goOn (.tag (tag ++ [c]))
    else if c = ' ' then reader.goOn (.gap ⟨tag, []⟩)
    else if c = '>' then reader.closeTag ⟨tag, []⟩
    else reader.goOn .refused
  | .gap head =>
    if c = '/' then reader.goOn (.slash head)
    else if isNameChar c then reader.goOn (.attributeName head [c])
    else reader.goOn .refused
  | .attributeName head name =>
    if isNameChar c then reader.goOn (.attributeName head (name ++ [c]))
    else if c = '=' then reader.goOn (.equals head name)
    else reader.goOn .refused
  | .equals head name =>
    if c = '"' then reader.goOn (.value head name [])
    else reader.goOn .refused
  | .value head name value =>
    if c = '"' then reader.goOn (.behindValue (head.push name value))
    else if c = '&' then reader.goOn (.valueEntity head name value [])
    else if c = '<' ∨ c = '>' then reader.goOn .refused
    else reader.goOn (.value head name (value ++ [c]))
  | .valueEntity head name value entity =>
    if c = ';' then
      match entities.lookup entity with
      | some meant => reader.goOn (.value head name (value ++ [meant]))
      | none => reader.goOn .refused
    else reader.goOn (.valueEntity head name value (entity ++ [c]))
  | .behindValue head =>
    if c = ' ' then reader.goOn (.gap head)
    else if c = '>' then reader.closeTag head
    else reader.goOn .refused
  | .slash head =>
    if c = '>' then reader.addTree (.void (String.ofList head.tag) head.attributes)
    else reader.goOn .refused
  | .endTag tag =>
    if isNameChar c then reader.goOn (.endTag (tag ++ [c]))
    else if c = '>' then reader.closeElement tag
    else reader.goOn .refused
  | .refused => reader

def run (reader : Reader) (text : List Char) : Reader :=
  text.foldl step reader

@[simp] theorem run_nil (reader : Reader) : reader.run [] = reader := rfl

@[simp] theorem run_cons (reader : Reader) (c : Char) (text : List Char) :
    reader.run (c :: text) = (reader.step c).run text := rfl

theorem run_append (reader : Reader) (first second : List Char) :
    reader.run (first ++ second) = (reader.run first).run second :=
  List.foldl_append

/-- What has been read if nothing is left open. -/
def forest? (reader : Reader) : Option (List Tree) :=
  match reader.mode, reader.opened with
  | .content, [] => some reader.flushed
  | _, _ => none

end Reader

def read? (text : List Char) : Option (List Tree) :=
  (Reader.start.run text).forest?

end Markup
end Artboard
