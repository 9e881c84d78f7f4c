import Artboard.Decimal.Shortest

/-!
# Rounding to whole numbers

Halves go away from zero.  A whole number is held within sixty-four signed bits,
and what is not a number counts as zero.  A double stays a double: zero keeps the
sign of what is rounded, and what is not finite stays as it is.
-/

namespace Artboard
namespace Decimal

/-- The whole number nearest `mantissa * 2 ^ exponent`, halves going up. -/
def nearestNat (mantissa : Nat) (exponent : Int) : Nat :=
  match exponent with
  | .ofNat shift => mantissa <<< shift
  | .negSucc shift => (mantissa + 1 <<< shift) >>> (shift + 1)

def maxWord : Int := 0x7FFFFFFFFFFFFFFF

def minWord : Int := -0x8000000000000000

/-- The nearest whole number as a double. -/
def round (x : Float) : Float :=
  match magnitude x with
  | .nan | .infinite => x
  | .finite mantissa exponent =>
    let size := Float.ofNat (nearestNat mantissa exponent)
    if isNegative x then -size else size

/-- The nearest whole number, halves going away from zero, held within a
signed sixty-four bit word. -/
def nearestInt (x : Float) : Int :=
  match magnitude x with
  | .nan => 0
  | .infinite => if isNegative x then minWord else maxWord
  | .finite mantissa exponent =>
    let size : Int := nearestNat mantissa exponent
    if isNegative x then max minWord (-size) else min maxWord size

end Decimal
end Artboard
