import Artboard.Markup.Text

/-!
# Markup trees

Elements with attributes and content, void elements without content, and text.
Only the printer writes angle brackets and quotes, and everything else goes
through it, so no value can change the shape of the tree.
-/

namespace Artboard
namespace Markup

/-- An attribute with its value as it is meant, not as it is written. -/
structure Attribute where
  name : String
  value : String
  deriving DecidableEq, Repr

/-- Markup as a tree. -/
inductive Tree where
  | element (tag : String) (attributes : List Attribute) (content : List Tree)
  | void (tag : String) (attributes : List Attribute)
  | text (value : String)

def Attribute.render (written : Attribute) : List Char :=
  written.name.toList ++ "=\"".toList ++ escapeAttribute written.value.toList ++ ['"']

/-- Attributes as they are written behind a tag. -/
def renderAttributes (attributes : List Attribute) : List Char :=
  attributes.flatMap fun written => ' ' :: written.render

mutual

def Tree.render : Tree → List Char
  | .element tag attributes content =>
    '<' :: tag.toList ++ renderAttributes attributes ++ ['>'] ++ renderForest content ++
      "</".toList ++ tag.toList ++ ['>']
  | .void tag attributes =>
    '<' :: tag.toList ++ renderAttributes attributes ++ " />".toList
  | .text value => textWithBreaks value.toList

/-- Trees as they are written one behind the other. -/
def renderForest : List Tree → List Char
  | [] => []
  | tree :: trees => tree.render ++ renderForest trees

end

end Markup
end Artboard
