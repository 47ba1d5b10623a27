/-
This file holds the numerals of JSON: a sign, digits, perhaps a fraction and perhaps an
exponent. A numeral without the last two and other than a negative zero is a plain integer.
-/

namespace Entitlement.Json

/-- The parts of a written number. -/
structure Numeral where
  negative : Bool
  whole : List Char
  /-- The digits after the point. A point that is written has some. -/
  fraction : List Char
  /-- The exponent, if one is written. -/
  exponent : Option Int
deriving DecidableEq, Repr

namespace Numeral

/-- Digits with no leading zero, except for zero itself. -/
def isWhole (digits : List Char) : Bool :=
  match digits with
  | [] => false
  | first :: rest => first != '0' || rest.isEmpty

/-- The value of decimal digits. -/
def value (digits : List Char) : Nat :=
  Nat.ofDigitChars 10 digits 0

/-- The digits after a point at the front, and the characters after them. -/
def fraction? (characters : List Char) : Option (List Char × List Char) :=
  match characters with
  | '.' :: rest =>
    let digits := rest.takeWhile Char.isDigit
    if digits.isEmpty then none else some (digits, rest.dropWhile Char.isDigit)
  | rest => some ([], rest)

/-- The number that some digits and nothing else write. -/
def digits? (characters : List Char) : Option Nat :=
  if !characters.isEmpty && characters.all Char.isDigit then some (value characters) else none

/-- The exponent that the characters write, if there are any characters. -/
def exponent? (characters : List Char) : Option (Option Int) :=
  match characters with
  | [] => some none
  | mark :: rest =>
    if mark != 'e' && mark != 'E' then none
    else match rest with
      | '-' :: digits => (digits? digits).map fun size => some (-(size : Int))
      | '+' :: digits => (digits? digits).map fun size => some (size : Int)
      | digits => (digits? digits).map fun size => some (size : Int)

def ofUnsigned? (negative : Bool) (characters : List Char) : Option Numeral := do
  let whole := characters.takeWhile Char.isDigit
  let (fraction, rest) ← fraction? (characters.dropWhile Char.isDigit)
  let exponent ← exponent? rest
  if isWhole whole then return ⟨negative, whole, fraction, exponent⟩ else none

/-- The numeral that the characters write. -/
def ofChars? (characters : List Char) : Option Numeral :=
  match characters with
  | '-' :: rest => ofUnsigned? true rest
  | _ => ofUnsigned? false characters

/-- The plain integer that a numeral is. A negative zero is none. -/
def integer? (numeral : Numeral) : Option Int :=
  if !numeral.fraction.isEmpty || numeral.exponent.isSome then none
  else if !numeral.negative then some (value numeral.whole)
  else if value numeral.whole = 0 then none
  else some (-(value numeral.whole : Int))

/-- The numeral of a plain integer. -/
def ofInteger (integer : Int) : Numeral where
  negative := integer < 0
  whole := Nat.toDigits 10 integer.natAbs
  fraction := []
  exponent := none

example : ofChars? "-0.50e+7".toList = some ⟨true, ['0'], ['5', '0'], some 7⟩ := by decide +kernel
example : ofChars? "01".toList = none ∧ ofChars? "1.".toList = none := by decide +kernel

end Numeral

end Entitlement.Json
