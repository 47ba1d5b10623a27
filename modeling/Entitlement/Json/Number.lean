/-
This file holds the numbers of JSON values of unknown shape. A plain integer that fits a word of
64 bits, with or without a sign, is exact. Any other number is a floating-point number, written
with the fewest digits that name it.
-/

import Entitlement.Binary64.Shortest
import Entitlement.Json.Basic
import Entitlement.Json.Numeral

namespace Entitlement.Json

/-! ### Reading -/

/-- The number that the digits write after those of `value`, as long as it fits 64 bits, and
the digits that were left. -/
def gather (value : Nat) : List Char → Nat × List Char
  | [] => (value, [])
  | digit :: rest =>
    let next := Nat.ofDigitChars 10 [digit] value
    if next < Nat.pow 2 64 then gather next rest else (value, digit :: rest)

/-- The size of the number that a numeral writes, unless it is too large. Its digits are read
as far as they fit a word; those left before the point count as zeros and those left after it
do not count. -/
def Numeral.size? (numeral : Numeral) : Option Binary64 :=
  let (whole, wholeLeft) := gather 0 numeral.whole
  let (significand, fractionLeft) := gather whole numeral.fraction
  let fractionRead := numeral.fraction.length - fractionLeft.length
  (Binary64.ofNat? significand).bind fun number =>
    number.scale? (numeral.exponent.getD 0 + wholeLeft.length - fractionRead)

/-! ### Writing -/

/-- The exponents of ten for which a number is written without an exponent. -/
def isPositional (magnitude : Int) : Bool :=
  -5 ≤ magnitude && magnitude ≤ 15

/-- The digits of a number with a point among them or an exponent after them. -/
def decimalChars (decimal : Binary64.Decimal) : List Char :=
  let digits := Nat.toDigits 10 decimal.digits
  let magnitude := decimal.exponent + digits.length - 1
  if isPositional magnitude then
    if 0 ≤ decimal.exponent then
      digits ++ List.replicate decimal.exponent.toNat '0' ++ ['.', '0']
    else if 0 ≤ magnitude then
      digits.take (magnitude.toNat + 1) ++ '.' :: digits.drop (magnitude.toNat + 1)
    else '0' :: '.' :: List.replicate (-magnitude - 1).toNat '0' ++ digits
  else
    let fraction := if digits.length ≤ 1 then [] else '.' :: digits.drop 1
    let sign := if magnitude < 0 then '-' else '+'
    digits.take 1 ++ fraction ++ 'e' :: sign :: Nat.toDigits 10 magnitude.natAbs

/-- The text of a number that is not a plain integer of 64 bits. -/
def Numeral.text? (numeral : Numeral) : Option String :=
  numeral.size?.map fun size =>
    let characters := decimalChars size.shortest
    String.ofList (if numeral.negative then '-' :: characters else characters)

example : (Numeral.ofChars? "1e16".toList).bind Numeral.text? = some "1e+16" := by decide +kernel
example : (Numeral.ofChars? "25e2".toList).bind Numeral.text? = some "2500.0" := by decide +kernel
example : (Numeral.ofChars? "-1E-7".toList).bind Numeral.text? = some "-1e-7" := by decide +kernel
example : (Numeral.ofChars? "2e308".toList).bind Numeral.text? = none := by decide +kernel

/-- Whether a plain integer fits a word of 64 bits. -/
def isWord (value : Int) : Bool :=
  -0x8000000000000000 ≤ value && value < 0x10000000000000000

end Entitlement.Json
