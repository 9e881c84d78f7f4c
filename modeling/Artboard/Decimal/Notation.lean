import Artboard.Decimal.Shortest

/-!
# Writing numbers

Two notations are in use.  Style sheets take the positional one, which never
has an exponent.  Documents take the one with a fraction part that is always
present and an exponent outside a fixed range.  Both write the digits of the
shortest decimal.
-/

namespace Artboard
namespace Decimal

/-- Put the point of `0.ddd` or `dd.dd` into a run of digits; `place` counts
the digits before the point and may be negative or exceed the run. -/
def positional (digits : List Char) (place : Int) : List Char × List Char :=
  if place ≤ 0 then (['0'], List.replicate (-place).toNat '0' ++ digits)
  else
    let whole := place.toNat
    (digits.take whole ++ List.replicate (whole - digits.length) '0', digits.drop whole)

/-- Sign, then the given text of the magnitude. -/
def signed (negative : Bool) (text : List Char) : String :=
  String.ofList (if negative then '-' :: text else text)

/-- Positional notation: as many zeros as it takes, no exponent, no point
behind a whole number. -/
def plain (x : Float) : String :=
  match magnitude x with
  | .nan => "NaN"
  | .infinite => signed (isNegative x) "inf".toList
  | .finite mantissa exponent =>
    let d := shortest .up mantissa exponent
    let digits := Nat.toDigits 10 d.digits
    let (whole, fraction) := positional digits (digits.length + d.exponent)
    signed (isNegative x) (if fraction.isEmpty then whole else whole ++ '.' :: fraction)

/-- Exponent notation with a sign: `1e-6`, `1.5e+16`. -/
def withExponent (digits : List Char) (exponent : Int) : List Char :=
  let head := match digits with
    | [] => []
    | [d] => [d]
    | d :: rest => d :: '.' :: rest
  let sign := if exponent < 0 then '-' else '+'
  head ++ 'e' :: sign :: Nat.toDigits 10 exponent.natAbs

/-- Document notation: positional from `1e-5` up to `1e16`, with at least one
digit behind the point, and exponent notation outside. -/
def document (x : Float) : String :=
  match magnitude x with
  | .nan => "null"
  | .infinite => "null"
  | .finite mantissa exponent =>
    let d := shortest .even mantissa exponent
    let digits := Nat.toDigits 10 d.digits
    let place := digits.length + d.exponent
    let text :=
      if -5 < place ∧ place ≤ 16 then
        let (whole, fraction) := positional digits place
        whole ++ '.' :: (if fraction.isEmpty then ['0'] else fraction)
      else withExponent digits (place - 1)
    signed (isNegative x) text

end Decimal
end Artboard
