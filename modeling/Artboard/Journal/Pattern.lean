import Artboard.Text.Blank
import Artboard.Text.Hex
import Artboard.Text.Search

/-!
# Patterns

A filter may say which values it is meant for, by a pattern.  Only stretches of
work have values to compare, of which there are none here, so all that is asked of
a pattern is whether it is well formed: groups and classes are closed, repetition
has something to repeat, and escapes are known.
-/

namespace Artboard
namespace Pattern

inductive Escape where
  | char (code : Nat)
  /-- A set of characters. -/
  | set
  /-- A place in a text. -/
  | place
  deriving DecidableEq, Repr

/-- Letters behind a backslash that stand for a character. -/
def controlLetters : List (Char × Nat) :=
  [('a', 7), ('f', 12), ('n', 10), ('r', 13), ('t', 9), ('v', 11)]

/-- How many hexadecimal digits follow a letter behind a backslash. -/
def codeLetters : List (Char × Nat) :=
  [('x', 2), ('u', 4), ('U', 8)]

/-- Read an escape from behind its backslash. Places between words are not offered,
because what makes up a word depends on the script. -/
def readEscape? : List Char → Option (Escape × List Char)
  | [] => none
  | c :: rest =>
    match controlLetters.lookup c, codeLetters.lookup c with
    | some code, _ => some (.char code, rest)
    | none, some count =>
      let digits := rest.take count
      if digits.length = count ∧ digits.all (fun d => (Text.hexValue? d).isSome) ∧
          (Text.hexNumber digits).isValidChar then
        some (.char (Text.hexNumber digits), rest.drop count)
      else none
    | none, none =>
      if "dDsSwW".toList.contains c then some (.set, rest)
      else if c = 'p' ∨ c = 'P' then
        match rest with
        | category :: rest =>
          if "LMNPSZC".toList.contains category.toUpper then some (.set, rest) else none
        | [] => none
      else if c = 'A' ∨ c = 'z' then some (.place, rest)
      else if c.toNat < 0x80 ∧ !c.isAlphanum ∧ c ≠ '<' ∧ c ≠ '>' then
        some (.char c.toNat, rest)
      else none

/-- One member of a class: the code of a character, or a set. -/
def readMember? : List Char → Option (Option Nat × List Char)
  | [] => none
  | '\\' :: rest =>
    match readEscape? rest with
    | some (.char code, rest) => some (some code, rest)
    | some (.set, rest) => some (none, rest)
    | _ => none
  | c :: rest => some (some c.toNat, rest)

/-- The start of a class behind its bracket: it may be negated, and a hyphen or a
closing bracket at its start stands for itself. -/
def skipClassStart (text : List Char) : List Char :=
  let text := match text with
    | '^' :: rest => rest
    | _ => text
  match text with
  | '-' :: _ => text.dropWhile (· == '-')
  | ']' :: rest => rest
  | _ => text

/-- Read a class to behind its closing bracket, where so many classes are open.
A range runs upwards from one character to another. -/
def readClass? : Nat → Nat → List Char → Option (List Char)
  | 0, _, _ => none
  | fuel + 1, opened, text =>
    match text with
    | [] => none
    | ']' :: rest => if opened = 1 then some rest else readClass? fuel (opened - 1) rest
    | '[' :: rest => readClass? fuel (opened + 1) (skipClassStart rest)
    | '&' :: '&' :: rest | '-' :: '-' :: rest | '~' :: '~' :: rest => readClass? fuel opened rest
    | text =>
      match readMember? text with
      | none => none
      | some (low, rest) =>
        match rest with
        | '-' :: next :: after =>
          if next = ']' ∨ next = '-' then readClass? fuel opened rest
          else match low, readMember? (next :: after) with
            | some low, some (some high, rest) =>
              if low ≤ high then readClass? fuel opened rest else none
            | _, _ => none
        | _ => readClass? fuel opened rest

/-- Letters that change how a group is read. -/
def isFlag (c : Char) : Bool :=
  "imsUuxR".toList.contains c

/-- Whether letters change how a group is read: each at most once, with at most
one hyphen before those that are taken back. -/
def areFlags (flags : List Char) : Bool :=
  let letters := flags.filter (· != '-')
  letters.all isFlag && letters.eraseDups.length == letters.length &&
    flags.length ≤ letters.length + 1 && flags.getLast? != some '-'

/-- Whether a text may name a group. -/
def isGroupName (name : List Char) : Bool :=
  match name with
  | [] => false
  | c :: rest =>
    (c.isAlpha || c == '_') && rest.all fun c => c.isAlphanum || "_.[]".toList.contains c

/-- Read the start of a group from behind its parenthesis, and whether it closes
there. -/
def readGroupStart? (text : List Char) : Option (Bool × List Char) :=
  let named := fun text =>
    match Text.cut '>' text with
    | (name, some rest) => if isGroupName name then some (false, rest) else none
    | (_, none) => none
  match text with
  | '?' :: 'P' :: '<' :: rest => named rest
  | '?' :: '<' :: rest => named rest
  | '?' :: rest =>
    let flags := rest.takeWhile fun c => c != ':' && c != ')'
    match rest.drop flags.length with
    | ':' :: rest => if areFlags flags then some (false, rest) else none
    | ')' :: rest => if areFlags flags && !flags.isEmpty then some (true, rest) else none
    | _ => none
  | text => some (false, text)

/-- Whether the rest of a pattern is well formed, where so many groups are open and
there is something to repeat or not. -/
def closes : Nat → Nat → Bool → List Char → Bool
  | _, opened, _, [] => opened == 0
  | 0, _, _, _ :: _ => false
  | fuel + 1, opened, repeatable, c :: rest =>
    match c with
    | '(' =>
      match readGroupStart? rest with
      | some (true, rest) => closes fuel opened false rest
      | some (false, rest) => closes fuel (opened + 1) false rest
      | none => false
    | ')' => 0 < opened && closes fuel (opened - 1) true rest
    | '|' => closes fuel opened false rest
    | '*' | '+' | '?' =>
      repeatable && closes fuel opened true (if rest.head? = some '?' then rest.drop 1 else rest)
    | '{' => false
    | '[' =>
      match readClass? (rest.length + 1) 1 (skipClassStart rest) with
      | some rest => closes fuel opened true rest
      | none => false
    | '\\' =>
      match readEscape? rest with
      | some (_, rest) => closes fuel opened true rest
      | none => false
    | _ => closes fuel opened true rest

/-- Whether a text is a pattern. It holds no closing brace, so that a repetition by
a count in braces never ends. -/
def isWellFormed (text : List Char) : Bool :=
  closes text.length 0 false text

/-- A number without a sign, with or without a point and an exponent. -/
def isUnsigned (text : List Char) : Bool :=
  let whole := text.takeWhile Char.isDigit
  let rest := text.drop whole.length
  let (places, rest) := match rest with
    | '.' :: rest => (rest.takeWhile Char.isDigit, rest.dropWhile Char.isDigit)
    | rest => ([], rest)
  let hasExponent := match rest with
    | [] => true
    | e :: '+' :: digits | e :: '-' :: digits =>
      e.toLower == 'e' && !digits.isEmpty && digits.all Char.isDigit
    | e :: digits => e.toLower == 'e' && !digits.isEmpty && digits.all Char.isDigit
  (!whole.isEmpty || !places.isEmpty) && hasExponent

/-- Whether a text describes a value. A number with a plus sign does, though the
sign has nothing to repeat; other numbers are patterns too. -/
def describesValue (text : List Char) : Bool :=
  match text with
  | '+' :: number =>
    isUnsigned number ||
      ["inf", "infinity", "nan"].contains (String.ofList (number.map Char.toLower))
  | text => isWellFormed text

end Pattern
end Artboard
