import Artboard.Decimal.Notation
import Artboard.Json.Reader

/-!
# Numbers

A numeral is read into a sixty-four bit significand and a power of ten.  Digits
go into the significand while they fit; integer digits beyond that only raise
the power, and fraction digits beyond that are dropped.  The value is the
significand, as a double, scaled by a table power of ten in one operation, so it
is not always the double nearest the numeral.
-/

namespace Artboard
namespace Json

/-- A number as it was written: whole, or with a fraction or an exponent. -/
inductive Numeral where
  | whole (value : Int)
  | real (value : Float)

/-- The double a numeral stands for. -/
def Numeral.toFloat : Numeral → Float
  | .whole value => Float.ofInt value
  | .real value => value

/-- A numeral in messages. -/
def Numeral.describe : Numeral → String
  | .whole value => "integer `" ++ toString value ++ "`"
  | .real value => "floating point `" ++ Decimal.document value ++ "`"

/-- Values of a significand stay below this bound. -/
def significandBound : Nat := 1 <<< 64

/-- The largest power of ten a double can hold. -/
def maxPower : Nat := 308

/-- The double nearest a power of ten. -/
def powerOfTen (n : Nat) : Float :=
  Float.ofScientific 1 false n

/-- Multiply or divide by a power of ten within the table, refusing an infinite
product. -/
def scaleOnce (f : Float) (exponent : Int) : Option Float :=
  if 0 ≤ exponent then
    let product := f * powerOfTen exponent.toNat
    if product.isInf then none else some product
  else some (f / powerOfTen (-exponent).toNat)

/-- Scale by any power of ten. A negative power beyond the table is approached
in divisions by the largest table power; zero stays zero, and any other value is
refused when the power is positive. -/
def scaleBy : Nat → Float → Int → Option Float
  | 0, f, exponent => scaleOnce f exponent
  | steps + 1, f, exponent =>
    if exponent.natAbs ≤ maxPower then scaleOnce f exponent
    else if f == 0.0 then some f
    else if 0 ≤ exponent then none
    else scaleBy steps (f / powerOfTen maxPower) (exponent + maxPower)

/-- `significand * 10 ^ exponent`, or nothing when it is out of range. -/
def scaled? (significand : Nat) (exponent : Int) : Option Float :=
  scaleBy (exponent.natAbs / maxPower) (Float.ofNat significand) exponent

def digitValue (c : Char) : Nat :=
  c.toNat - '0'.toNat

/-- Take digits into a value while it stays below a bound; what does not fit is
left. -/
def absorb (bound : Nat) : Nat → List Char → Nat × List Char
  | value, [] => (value, [])
  | value, digit :: digits =>
    let next := value * 10 + digitValue digit
    if next < bound then absorb bound next digits else (value, digit :: digits)

def withSign (negative : Bool) (f : Float) : Float :=
  if negative then -f else f

/-- The number made of a significand and a power, if it is in range. -/
def finish (negative : Bool) (significand : Nat) (exponent : Int) : Reader Numeral :=
  match scaled? significand exponent with
  | some f => pure (.real (withSign negative f))
  | none => failHere .numberOutOfRange

/-- Exponents stay below this bound. -/
def exponentBound : Nat := 1 <<< 31

/-- Read an exponent from behind its letter. An exponent too large to hold ends
the reading at once, unless the value is zero anyway. -/
def readExponent (negative : Bool) (significand : Nat) (start : Int) : Reader Numeral := do
  let rest ← get
  let (down, rest) := match rest with
    | '+' :: tail => (false, tail)
    | '-' :: tail => (true, tail)
    | _ => (false, rest)
  set rest
  match rest with
  | [] => failHere .endOfValue
  | c :: _ =>
    if !c.isDigit then failAhead .invalidNumber
    else
      let digits := rest.takeWhile Char.isDigit
      let (exponent, beyond) := absorb exponentBound 0 digits
      if beyond.isEmpty then
        set (rest.drop digits.length)
        finish negative significand (if down then start - exponent else start + exponent)
      else if significand ≠ 0 ∧ !down then
        set (rest.drop (digits.length - beyond.length + 1))
        failHere .numberOutOfRange
      else
        set (rest.drop digits.length)
        return .real (withSign negative 0.0)

/-- Read a fraction from behind its point. -/
def readFraction (negative : Bool) (significand : Nat) (start : Int) : Reader Numeral := do
  let rest ← get
  let digits := rest.takeWhile Char.isDigit
  let tail := rest.drop digits.length
  if digits.isEmpty then
    if tail.isEmpty then failAhead .endOfValue else failAhead .invalidNumber
  else
    let (significand, dropped) := absorb significandBound significand digits
    let exponent := start - ((digits.length - dropped.length : Nat) : Int)
    set tail
    match tail with
    | 'e' :: _ | 'E' :: _ => do advance; readExponent negative significand exponent
    | _ => finish negative significand exponent

/-- The number made of a whole significand. Zero keeps a minus sign only as a
double, and below the smallest signed word a whole number becomes a double. -/
def wholeNumeral (negative : Bool) (significand : Nat) : Numeral :=
  if !negative then .whole significand
  else if significand = 0 ∨ 1 <<< 63 < significand then .real (-(Float.ofNat significand))
  else .whole (-(significand : Int))

/-- Read a number from behind its sign. -/
def readDigits (negative : Bool) : Reader Numeral := do
  let rest ← get
  match rest with
  | [] => failHere .endOfValue
  | c :: tail =>
    if !c.isDigit then failAhead .invalidNumber
    else
      let digits := if c = '0' then ['0'] else rest.takeWhile Char.isDigit
      if c = '0' ∧ (tail.head?.any Char.isDigit) then
        set tail
        failAhead .invalidNumber
      else
        let (significand, beyond) := absorb significandBound 0 digits
        let exponent : Int := beyond.length
        let tail := rest.drop digits.length
        set tail
        match tail with
        | '.' :: _ => do advance; readFraction negative significand exponent
        | 'e' :: _ | 'E' :: _ => do advance; readExponent negative significand exponent
        | _ =>
          if beyond.isEmpty then return wholeNumeral negative significand
          else finish negative significand exponent

def readNumber : Reader Numeral := do
  if (← get).head? = some '-' then
    advance
    readDigits true
  else readDigits false

/-- Pass over the digits that are next. -/
def skipDigits : Reader Unit :=
  modify fun rest => rest.dropWhile Char.isDigit

/-- Pass over an exponent from behind its letter. -/
def skipExponent : Reader Unit := do
  match ← get with
  | '+' :: _ | '-' :: _ => advance
  | _ => pure ()
  if (← get).head?.any Char.isDigit then skipDigits else failAhead .invalidNumber

/-- Pass over a fraction and the exponent behind it, from behind the point. -/
def skipFraction : Reader Unit := do
  if !((← get).head?.any Char.isDigit) then failAhead .invalidNumber
  skipDigits
  match ← get with
  | 'e' :: _ | 'E' :: _ => do advance; skipExponent
  | _ => pure ()

/-- Pass over a number whose first character is next. Its size does not
matter. -/
def skipNumber : Reader Unit := do
  if (← get).head? = some '-' then advance
  match ← get with
  | [] => failHere .invalidNumber
  | '0' :: tail => do
    advance
    if tail.head?.any Char.isDigit then failAhead .invalidNumber
  | c :: _ => if c.isDigit then skipDigits else failAhead .invalidNumber
  match ← get with
  | '.' :: _ => do advance; skipFraction
  | 'e' :: _ | 'E' :: _ => do advance; skipExponent
  | _ => pure ()

end Json
end Artboard
