/-!
# Finding text in text

The first occurrence of a pattern or a character, and splitting at a character.
-/

namespace Artboard
namespace Text

/-- What follows the first occurrence of a pattern, with the number of
characters before it. -/
def after? (pattern : List Char) : List Char → Option (Nat × List Char)
  | [] => if pattern.isEmpty then some (0, []) else none
  | c :: rest =>
    if pattern.isPrefixOf (c :: rest) then some (0, (c :: rest).drop pattern.length)
    else (after? pattern rest).map fun found => (found.1 + 1, found.2)

/-- Whether a pattern occurs in a text. -/
def contains (pattern text : List Char) : Bool :=
  (after? pattern text).isSome

/-- Split at the first occurrence of a character, which belongs to neither
side. -/
def cut (mark : Char) (text : List Char) : List Char × Option (List Char) :=
  let before := text.takeWhile (· != mark)
  match text.drop before.length with
  | [] => (before, none)
  | _ :: rest => (before, some rest)

/-- The pieces of a text between the occurrences of a character; there is one
piece more than there are occurrences. -/
def splitAt (separator : Char) : List Char → List (List Char)
  | [] => [[]]
  | c :: rest =>
    if c = separator then [] :: splitAt separator rest
    else match splitAt separator rest with
      | [] => [[c]]
      | piece :: others => (c :: piece) :: others

end Text
end Artboard
