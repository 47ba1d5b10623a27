/-
This file finds the shortest decimal digits that name a floating-point number: those from which
rounding to the nearest leads back to it. Of several decimals of the same length the one nearest
to the number is taken, and of two that are equally near the one with the even last digit.

A number owns all that lies nearer to it than to its neighbours. Where this interval first meets
a grid of powers of ten, from coarse to fine, one of the two grid points around the number lies
in it.
-/

import Entitlement.Binary64.Basic

namespace Entitlement.Binary64

/-- A decimal number `digits * 10 ^ exponent`. -/
structure Decimal where
  digits : Nat
  exponent : Int
deriving DecidableEq, Repr

/-- The interval of what rounds to a number. All is counted in quarters of a unit. -/
structure Interval where
  low : Nat
  middle : Nat
  high : Nat
  /-- Whether the ends belong to it. -/
  closed : Bool

/-- The interval of a number other than zero. Below a power of two the numbers stand closer. -/
def interval (number : Binary64) : Interval :=
  let step := spacing number.units
  let isBorder := 1 < step && number.units == powerOfTwo 52 * step
  { low := 4 * number.units - (if isBorder then step else 2 * step)
    middle := 4 * number.units
    high := 4 * number.units + 2 * step
    closed := number.units / step % 2 == 0 }

namespace Interval

/-- The interval in other units. -/
def scaled (interval : Interval) (factor : Nat) : Interval :=
  { interval with
    low := interval.low * factor
    middle := interval.middle * factor
    high := interval.high * factor }

def holds (interval : Interval) (point : Nat) : Bool :=
  (interval.low < point && point < interval.high) ||
    (interval.closed && (point == interval.low || point == interval.high))

/-- The multiple of `step` in the interval that is nearest to its middle, divided by `step`. -/
def nearest? (interval : Interval) (step : Nat) : Option Nat :=
  let below := interval.middle / step
  let nearer := roundQuotient interval.middle step
  if interval.holds (nearer * step) then some nearer
  else if interval.holds (below * step) then some below
  else if interval.holds ((below + 1) * step) then some (below + 1)
  else none

/-- The nearest point of the grid of a power of ten, if one lies in the interval. -/
def onGrid? (interval : Interval) (exponent : Int) : Option Decimal :=
  let found := match exponent with
    | .ofNat up => interval.nearest? (4 * unitsOfOne * Nat.pow 10 up)
    | .negSucc before => (interval.scaled (Nat.pow 10 (before + 1))).nearest? (4 * unitsOfOne)
  found.map fun digits => ⟨digits, exponent⟩

end Interval

/-- The exponents of the grids, from coarse to fine. The last is fine enough for all. -/
def gridExponents : List Int :=
  (List.range 640).map fun (index : Nat) => 310 - (index : Int)

/-- The shortest decimal that names a number. -/
def shortest (number : Binary64) : Decimal :=
  if number.isZero then ⟨0, 0⟩
  else (gridExponents.findSome? number.interval.onGrid?).getD ⟨0, 0⟩

end Entitlement.Binary64
