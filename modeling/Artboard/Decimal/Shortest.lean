/-!
# Shortest decimals

A finite double is a whole number times a power of two, and the reals that
round to it form an interval around it.  The shortest decimal of the double is
the one with the fewest digits inside that interval and, among those, the one
nearest the double itself.

The search uses natural numbers only.  For each digit count, coarsest grid
first, it looks at the two neighbours of the double on the decimal grid: when
any point of the grid lies in the interval, so does one of these two.  What to
do with two equally near neighbours is left to the notation that prints them.
-/

namespace Artboard
namespace Decimal

/-- What the bits of a double say apart from its sign. -/
inductive Magnitude where
  | nan
  | infinite
  /-- The value `mantissa * 2 ^ exponent`. -/
  | finite (mantissa : Nat) (exponent : Int)
  deriving DecidableEq, Repr

def isNegative (x : Float) : Bool :=
  x.toBits.toNat >>> 63 == 1

/-- Decode the exponent and fraction fields. A zero exponent field has no
implicit leading bit. -/
def magnitude (x : Float) : Magnitude :=
  let word : Nat := x.toBits.toNat
  let fraction : Nat := word % (1 <<< 52)
  let field : Nat := (word >>> 52) % 2048
  if field = 2047 then
    if fraction = 0 then .infinite else .nan
  else if field = 0 then .finite fraction (-1074)
  else .finite (1 <<< 52 + fraction) ((field : Int) - 1075)

/-- A decimal `digits * 10 ^ exponent`. -/
structure Scaled where
  digits : Nat
  exponent : Int
  deriving DecidableEq, Repr

/-- Which of two equally near decimals is the shortest one. -/
inductive Tie where
  | up
  | even
  deriving DecidableEq, Repr

def digitCount (n : Nat) : Nat :=
  if n = 0 then 0 else (Nat.toDigits 10 n).length

/-- The exponent of the leading digit of a positive `mantissa * 2 ^ exponent`:
the `k` with `10 ^ k ≤ value < 10 ^ (k + 1)`. -/
def leadingExponent (mantissa : Nat) (exponent : Int) : Int :=
  let num := mantissa <<< exponent.toNat
  let den := 1 <<< (-exponent).toNat
  if den ≤ num then (digitCount (num / den) : Int) - 1
  else -(digitCount ((den + num - 1) / num - 1) : Int)

/-- The grid of multiples of `10 ^ exponent` seen beside a double.  A grid
point `d` is compared as `d * step` with quarter units of the double's last
place, each `unit` wide. -/
structure Grid where
  step : Nat
  unit : Nat

/-- Bring the grid of `10 ^ place` and a quarter of `2 ^ exponent` to whole
numbers over one denominator. -/
def Grid.at (exponent place : Int) : Grid where
  step := Nat.pow 10 place.toNat <<< (2 - exponent).toNat
  unit := Nat.pow 10 (-place).toNat <<< (exponent - 2).toNat

/-- Quarter units from the double down to the lower end of its interval. At a
power of two the neighbour below is half as far away. -/
def quartersBelow (mantissa : Nat) (exponent : Int) : Nat :=
  if mantissa = 1 <<< 52 ∧ exponent ≠ -1074 then 1 else 2

/-- Whether the grid point `d` rounds to the double. The ends of the interval
belong to it exactly when the mantissa is even. -/
def roundsTo (mantissa : Nat) (exponent : Int) (grid : Grid) (d : Nat) : Bool :=
  let lower := (4 * mantissa - quartersBelow mantissa exponent) * grid.unit
  let upper := (4 * mantissa + 2) * grid.unit
  let point := d * grid.step
  if mantissa % 2 = 0 then lower ≤ point && point ≤ upper
  else lower < point && point < upper

/-- The nearer of the double's two neighbours on a grid that rounds to it. -/
def nearestOn (tie : Tie) (mantissa : Nat) (exponent place : Int) : Option Nat :=
  let grid := Grid.at exponent place
  let centre := 4 * mantissa * grid.unit
  let low := centre / grid.step
  let high := low + 1
  match roundsTo mantissa exponent grid low, roundsTo mantissa exponent grid high with
  | true, true =>
    let below := centre - low * grid.step
    let above := high * grid.step - centre
    if below < above then some low
    else if above < below then some high
    else match tie with
      | .up => some high
      | .even => some (if low % 2 = 0 then low else high)
  | true, false => some low
  | false, true => some high
  | false, false => none

/-- Move trailing zeros of the digits into the exponent. -/
def dropZeros : Nat → Scaled → Scaled
  | 0, d => d
  | fuel + 1, d =>
    if d.digits ≠ 0 ∧ d.digits % 10 = 0 then dropZeros fuel ⟨d.digits / 10, d.exponent + 1⟩
    else d

/-- The shortest decimal of `mantissa * 2 ^ exponent`. Seventeen digits tell
any two doubles apart, so the search ends with a hit. -/
def shortest (tie : Tie) (mantissa : Nat) (exponent : Int) : Scaled :=
  if mantissa = 0 then ⟨0, 0⟩
  else
    let top := leadingExponent mantissa exponent
    let hit := (List.range 17).findSome? fun (n : Nat) =>
      (nearestOn tie mantissa exponent (top - n)).map fun d => Scaled.mk d (top - n)
    dropZeros 17 (hit.getD ⟨0, 0⟩)

end Decimal
end Artboard
