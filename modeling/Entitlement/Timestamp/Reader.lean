/-
This file reads points in time. The form is that of RFC 3339 with some freedom: leading zeros may
be left out, blanks may stand before each number and each mark of the date and of the time and
around the zone, a year may have a sign and then any number of digits, and the zone may be any
that is less than a day off.
-/

import Entitlement.Text.Blank
import Entitlement.Timestamp

namespace Entitlement.Timestamp

/-- The characters from the first that is not blank. -/
def skipBlanks (characters : List Char) : List Char :=
  characters.dropWhile Text.isBlank

/-- The characters after the given one, if it comes first. -/
def after? (mark : Char) (characters : List Char) : Option (List Char) :=
  match characters with
  | first :: rest => if first = mark then some rest else none
  | [] => none

/-! ### Numbers -/

/-- A number of one digit or two after blanks, and the characters after it. -/
def pair? (characters : List Char) : Option (Nat × List Char) :=
  Text.shortNumber? 2 (skipBlanks characters)

/-- A mark after blanks, then a number of one digit or two. -/
def markedPair? (mark : Char) (characters : List Char) : Option (Nat × List Char) :=
  (after? mark (skipBlanks characters)).bind pair?

/-- A year, and the characters after it. -/
def year? (characters : List Char) : Option (Int × List Char) :=
  match skipBlanks characters with
  | '-' :: rest => (Text.shortNumber? rest.length rest).map fun found => (-(found.1 : Int), found.2)
  | '+' :: rest => (Text.shortNumber? rest.length rest).map fun found => (found.1, found.2)
  | rest => (Text.shortNumber? 4 rest).map fun found => (found.1, found.2)

/-- The nanoseconds that a fraction writes. Digits after the ninth do not count. -/
def nanosecondsOf (digits : List Char) : Nat :=
  Nat.ofDigitChars 10 ((digits ++ List.replicate (9 - digits.length) '0').take 9) 0

/-- The nanoseconds of the fraction at the front, and the characters after it. -/
def fraction? (characters : List Char) : Option (Nat × List Char) :=
  match characters with
  | '.' :: rest =>
    let digits := rest.takeWhile Char.isDigit
    if digits.isEmpty then none else some (nanosecondsOf digits, rest.dropWhile Char.isDigit)
  | rest => some (0, rest)

/-! ### Zones -/

/-- The minutes of a zone after its sign: two digits for the hours and two for the minutes,
which colons and blanks may part. -/
def zoneSize? (characters : List Char) : Option (Nat × List Char) := do
  let (hours, rest) ← Text.leadingNumber? 2 characters
  let rest := rest.dropWhile fun character => character == ':' || Text.isBlank character
  let (minutes, rest) ← Text.leadingNumber? 2 rest
  if minutes < 60 && hours < 24 then return (60 * hours + minutes, rest) else none

/-- By how many minutes a zone is ahead of UTC, and the characters after it. -/
def zone? (characters : List Char) : Option (Int × List Char) :=
  match characters with
  | 'Z' :: rest => some (0, rest)
  | 'z' :: rest => some (0, rest)
  | '+' :: rest => (zoneSize? rest).map fun found => (found.1, found.2)
  | '-' :: rest => (zoneSize? rest).map fun found => (-(found.1 : Int), found.2)
  | '−' :: rest => (zoneSize? rest).map fun found => (-(found.1 : Int), found.2)
  | _ =>
    if (characters.take 3).map Char.toUpper = ['U', 'T', 'C'] then some (0, characters.drop 3)
    else none

/-! ### The whole text -/

/-- The mark between date and time. -/
def afterDate? (characters : List Char) : Option (List Char) :=
  match characters with
  | 'T' :: rest => some rest
  | 't' :: rest => some rest
  | ' ' :: rest => some rest
  | _ => none

/-- The point in time that a text writes. -/
def ofText? (text : String) : Option Timestamp := do
  let (year, rest) ← year? text.toList
  let (month, rest) ← markedPair? '-' rest
  let (day, rest) ← markedPair? '-' rest
  let (hour, rest) ← (afterDate? rest).bind pair?
  let (minute, rest) ← markedPair? ':' rest
  let (second, rest) ← markedPair? ':' rest
  let (nanosecond, rest) ← fraction? rest
  let (ahead, rest) ← zone? (skipBlanks rest)
  let date ← Date.of? year month day
  if rest.all Text.isBlank && isTime hour minute second nanosecond then
    ofLocal? date hour minute second nanosecond ahead
  else none

example : (ofText? "2024-02-29T00:00:00.120Z").map text = some "2024-02-29T00:00:00.120Z" := by
  decide +kernel
example : (ofText? "2024-2-29 23:59:59.5-00:30").map text = some "2024-03-01T00:29:59.500Z" := by
  decide +kernel

end Entitlement.Timestamp
