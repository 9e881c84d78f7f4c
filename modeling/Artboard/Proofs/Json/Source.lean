import Artboard.Json.Text

/-!
# JSON texts as syntax trees

A source is a JSON text taken apart as the grammar has it, with everything that makes two
texts of one value different: the blanks between tokens, the escapes in quoted texts, and
how a number is written.  The parts carry what the grammar asks of them, so every source
is a JSON text and nothing else is.

Blanks stand behind an opening bracket, and before and after every item.
-/

namespace Artboard
namespace Json

/-- Blanks between two tokens. -/
structure Gap where
  chars : List Char
  blank : ∀ c ∈ chars, isGap c = true

/-! ## Quoted texts -/

/-- A piece of a quoted text. -/
inductive Piece where
  /-- A character that stands for itself. -/
  | plain (c : Char) (isPlain : c ≠ '"' ∧ c ≠ '\\' ∧ ¬c.toNat < 0x20)
  /-- An escape of one letter. -/
  | short (letter : Char) (c : Char) (isShort : shortEscape? letter = some c)
  /-- An escape by the four hexadecimal digits of a code. -/
  | code (a b c d : Char) (code : Nat) (isCode : hexCode? a b c d = some code)

def Piece.render : Piece → List Char
  | .plain c _ => [c]
  | .short letter _ _ => ['\\', letter]
  | .code a b c d _ _ => ['\\', 'u', a, b, c, d]

def renderPieces (pieces : List Piece) : List Char :=
  pieces.flatMap Piece.render

/-- The characters that pieces stand for, if each surrogate is one of a pair. -/
def spelled? : List Piece → Option (List Char)
  | [] => some []
  | .plain c _ :: pieces => (spelled? pieces).map (c :: ·)
  | .short _ c _ :: pieces => (spelled? pieces).map (c :: ·)
  | .code _ _ _ _ code _ :: pieces =>
    if isLowSurrogate code then none
    else if isHighSurrogate code then
      match pieces with
      | .code _ _ _ _ low _ :: others =>
        if isLowSurrogate low then (spelled? others).map (pairedChar code low :: ·) else none
      | _ => none
    else (spelled? pieces).map (Char.ofNat code :: ·)

/-- What a quoted text says. -/
def said? (pieces : List Piece) : Option String :=
  (spelled? pieces).map String.ofList

/-! ## Numbers -/

/-- One digit or more. -/
structure Digits where
  chars : List Char
  areDigits : ∀ c ∈ chars, c.isDigit = true
  nonempty : chars ≠ []

/-- An exponent with its letter and its sign, if any. -/
structure Exponent where
  letter : Char
  isLetter : letter = 'e' ∨ letter = 'E'
  sign : List Char
  isSign : sign = [] ∨ sign = ['+'] ∨ sign = ['-']
  digits : Digits

def Exponent.render (exponent : Exponent) : List Char :=
  exponent.letter :: (exponent.sign ++ exponent.digits.chars)

/-- A number as it is written. Nothing stands behind a leading zero. -/
structure NumberText where
  negative : Bool
  whole : Digits
  leading : whole.chars.head? = some '0' → whole.chars = ['0']
  fraction : Option Digits
  exponent : Option Exponent

/-- A fraction with its point, and nothing when there is none. -/
def renderFraction : Option Digits → List Char
  | none => []
  | some digits => '.' :: digits.chars

def renderExponent : Option Exponent → List Char
  | none => []
  | some exponent => exponent.render

/-- What stands behind the whole part. -/
def NumberText.renderBehind (number : NumberText) : List Char :=
  renderFraction number.fraction ++ renderExponent number.exponent

def NumberText.render (number : NumberText) : List Char :=
  (if number.negative then ['-'] else []) ++ (number.whole.chars ++ number.renderBehind)

/-! ## Values -/

/-- The blanks before and after a value. -/
structure Frame where
  before : Gap
  after : Gap

/-- A key with the blanks around it, and the blanks around the value behind the colon. -/
structure Label where
  before : Gap
  key : List Piece
  behind : Gap
  frame : Frame

/-- A JSON value as it is written. -/
inductive Source where
  | null
  | bool (value : Bool)
  | number (number : NumberText)
  | text (pieces : List Piece)
  | list (blank : Gap) (items : List (Frame × Source))
  | object (blank : Gap) (members : List (Label × Source))

/-- The comma before every item but the first. -/
def separator (isFirst : Bool) : List Char :=
  if isFirst then [] else [',']

@[simp] theorem separator_true : separator true = [] := rfl

@[simp] theorem separator_false : separator false = [','] := rfl

def renderQuoted (pieces : List Piece) : List Char :=
  '"' :: (renderPieces pieces ++ ['"'])

namespace Source

mutual

def render : Source → List Char
  | null => "null".toList
  | bool true => "true".toList
  | bool false => "false".toList
  | number value => value.render
  | text pieces => renderQuoted pieces
  | list blank items => '[' :: (blank.chars ++ renderItems true items)
  | object blank members => '\x7b' :: (blank.chars ++ renderMembers true members)

/-- Items up to and including the closing bracket. -/
def renderItems : Bool → List (Frame × Source) → List Char
  | _, [] => [']']
  | isFirst, (frame, value) :: items =>
    separator isFirst ++ (frame.before.chars ++ (value.render ++
      (frame.after.chars ++ renderItems false items)))

/-- Members up to and including the closing brace. -/
def renderMembers : Bool → List (Label × Source) → List Char
  | _, [] => ['\x7d']
  | isFirst, (label, value) :: members =>
    separator isFirst ++ (label.before.chars ++ (renderQuoted label.key ++
      (label.behind.chars ++ ':' :: (label.frame.before.chars ++ (value.render ++
        (label.frame.after.chars ++ renderMembers false members))))))

end

@[simp] theorem render_null : null.render = "null".toList := rfl

@[simp] theorem render_true : (bool true).render = "true".toList := rfl

@[simp] theorem render_false : (bool false).render = "false".toList := rfl

@[simp] theorem render_number (value : NumberText) : (number value).render = value.render := rfl

@[simp] theorem render_text (pieces : List Piece) :
    (text pieces).render = renderQuoted pieces := rfl

@[simp] theorem render_list (blank : Gap) (items : List (Frame × Source)) :
    (list blank items).render = '[' :: (blank.chars ++ renderItems true items) := rfl

@[simp] theorem render_object (blank : Gap) (members : List (Label × Source)) :
    (object blank members).render = '\x7b' :: (blank.chars ++ renderMembers true members) := rfl

end Source

/-- The whole text of a value with blanks around it. -/
def Frame.text (frame : Frame) (source : Source) : String :=
  String.ofList (frame.before.chars ++ (source.render ++ frame.after.chars))

end Json
end Artboard
