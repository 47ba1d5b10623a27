/-
This file holds digits: hexadecimal ones in both directions, and decimal numbers of a few
digits, which dates are made of.
-/

namespace Entitlement.Text

/-- The lower-case hexadecimal digit of a value below sixteen. -/
def hexDigit (value : Nat) : Char :=
  Nat.digitChar value

/-- The value of a hexadecimal digit in either case. -/
def hexValue? (character : Char) : Option Nat :=
  if character.isDigit then some (character.toNat - '0'.toNat)
  else if 'a' ≤ character && character ≤ 'f' then some (character.toNat - 'a'.toNat + 10)
  else if 'A' ≤ character && character ≤ 'F' then some (character.toNat - 'A'.toNat + 10)
  else none

theorem hexValue?_hexDigit {value : Nat} (small : value < 16) :
    hexValue? (hexDigit value) = some value := by
  have all : ∀ digit ∈ List.range 16, hexValue? (hexDigit digit) = some digit := by decide
  exact all value (List.mem_range.2 small)

/-- The last `width` decimal digits of a number, with zeros in front. -/
def padded : Nat → Nat → List Char
  | 0, _ => []
  | width + 1, value => padded width (value / 10) ++ [Nat.digitChar (value % 10)]

/-- The number that the digits at the front write, of which there must be one and no more than
`most` count, and the characters after them. -/
def shortNumber? (most : Nat) (characters : List Char) : Option (Nat × List Char) :=
  let digits := (characters.take most).takeWhile Char.isDigit
  if digits.isEmpty then none
  else some (Nat.ofDigitChars 10 digits 0, characters.drop digits.length)

/-- The number that the first `width` characters write in decimal, and the characters after
them. -/
def leadingNumber? (width : Nat) (characters : List Char) : Option (Nat × List Char) :=
  let digits := characters.take width
  if digits.length = width && digits.all Char.isDigit then
    some (Nat.ofDigitChars 10 digits 0, characters.drop width)
  else none

end Entitlement.Text
