/-
This file holds the floating-point numbers of 64 bits that are finite and not negative, and
what is needed to compute with them: rounding, products and quotients. A number is counted in
units of `2 ^ -1074`, the least of them, so all of this is exact arithmetic of natural numbers
up to one rounding. Numbers of at least `2 ^ 53` units stand further apart: by as much as leaves
53 binary digits.
-/

namespace Entitlement

namespace Binary64

def powerOfTwo (exponent : Nat) : Nat := Nat.pow 2 exponent

theorem powerOfTwo_pos (exponent : Nat) : 0 < powerOfTwo exponent :=
  Nat.two_pow_pos exponent

/-- The units in one. -/
def unitsOfOne : Nat := powerOfTwo 1074

/-- The units in `2 ^ 1024`, which is too large. -/
def unitsOfLimit : Nat := powerOfTwo 2098

end Binary64

/-- A finite number that is not negative. -/
structure Binary64 where
  /-- How many times `2 ^ -1074` it is. -/
  units : Nat
  finite : units < Binary64.unitsOfLimit
deriving DecidableEq

namespace Binary64

/-- How far apart the numbers stand that lie between the powers of two around `units`. -/
def spacing (units : Nat) : Nat :=
  powerOfTwo (Nat.log2 units - 52)

/-- The natural number nearest to a quotient, the even one of two. -/
def roundQuotient (numerator denominator : Nat) : Nat :=
  let whole := numerator / denominator
  let rest := numerator % denominator
  if denominator < 2 * rest || (2 * rest == denominator && whole % 2 == 1) then whole + 1
  else whole

/-- The number of so many units, unless it is too large. -/
def ofUnits? (units : Nat) : Option Binary64 :=
  if finite : units < unitsOfLimit then some ⟨units, finite⟩ else none

/-- The number nearest to a quotient of units, unless it is too large. -/
def round? (numerator denominator : Nat) : Option Binary64 :=
  let step := spacing (numerator / denominator)
  ofUnits? (roundQuotient numerator (denominator * step) * step)

def zero : Binary64 :=
  ⟨0, powerOfTwo_pos 2098⟩

instance : Inhabited Binary64 := ⟨zero⟩

def isZero (number : Binary64) : Bool :=
  number.units == 0

/-- The number nearest to a natural number. -/
def ofNat? (value : Nat) : Option Binary64 :=
  round? (value * unitsOfOne) 1

/-- The number nearest to a power of ten. -/
def tenTo? (exponent : Nat) : Option Binary64 :=
  ofNat? (Nat.pow 10 exponent)

/-- The number nearest to the product. -/
def mul? (left right : Binary64) : Option Binary64 :=
  round? (left.units * right.units) unitsOfOne

/-- The number nearest to the quotient. -/
def div? (left right : Binary64) : Option Binary64 :=
  round? (left.units * unitsOfOne) right.units

/-! ### Powers of ten -/

/-- The largest power of ten that is finite. -/
def maxTenPower : Nat := 308

theorem maxTenPower_pos : 0 < maxTenPower := by decide

/-- The number times a power of ten, unless that is too large. -/
def scaleUp? (number : Binary64) (exponent : Nat) : Option Binary64 :=
  if exponent ≤ maxTenPower then (tenTo? exponent).bind number.mul?
  else if number.isZero then some number
  else none

/-- The number divided by a power of ten. A power that is too large is divided by in steps, of
which each is rounded. -/
def scaleDown? (number : Binary64) (exponent : Nat) : Option Binary64 :=
  if exponent ≤ maxTenPower then (tenTo? exponent).bind number.div?
  else if number.isZero then some number
  else ((tenTo? maxTenPower).bind number.div?).bind fun smaller =>
    scaleDown? smaller (exponent - maxTenPower)
termination_by exponent
decreasing_by
  have positive := maxTenPower_pos
  omega

/-- The number times a power of ten with any exponent. -/
def scale? (number : Binary64) (exponent : Int) : Option Binary64 :=
  match exponent with
  | .ofNat up => number.scaleUp? up
  | .negSucc before => number.scaleDown? (before + 1)

end Binary64

end Entitlement
