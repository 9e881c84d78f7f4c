/-!
# File keys

The address under which a file is shared names the file by a key of letters and
figures.  The key follows the word that says what is shared.
-/

namespace Artboard

/-- What stands before a key. -/
def keyMarks : List (List Char) :=
  ["file/".toList, "design/".toList]

/-- The text behind the first mark in it. -/
def behindKeyMark? : List Char → Option (List Char)
  | [] => none
  | c :: rest =>
    match keyMarks.find? (·.isPrefixOf (c :: rest)) with
    | some mark => some ((c :: rest).drop mark.length)
    | none => behindKeyMark? rest

/-- The key in the address of a file. The first mark decides, even when no key
follows it. -/
def fileKey? (url : String) : Option String := do
  let key := (← behindKeyMark? url.toList).takeWhile Char.isAlphanum
  if key.isEmpty then none else some (String.ofList key)

end Artboard
