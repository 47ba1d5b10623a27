/-
This file holds points in time, to the nanosecond and in UTC, and writes them as RFC 3339 does.
A fraction of a second is written with three, six or nine digits, as few as it needs, and a year
that has not four digits is written with its sign.
-/

import Entitlement.Calendar
import Entitlement.Text.Digits

namespace Entitlement

/-- Whether the numbers are a time of day. A leap second is the sixtieth. -/
def Timestamp.isTime (hour minute second nanosecond : Nat) : Bool :=
  hour < 24 && minute < 60 && second ≤ 60 && nanosecond < 1000000000

/-- A date and a time of day in UTC. -/
structure Timestamp where
  date : Date
  hour : Nat
  minute : Nat
  second : Nat
  nanosecond : Nat
  valid : Timestamp.isTime hour minute second nanosecond = true
deriving DecidableEq

namespace Timestamp

instance : Inhabited Timestamp :=
  ⟨{ date := default, hour := 0, minute := 0, second := 0, nanosecond := 0, valid := by decide }⟩

/-- The fraction of a second, if there is one. -/
def fractionChars (nanosecond : Nat) : List Char :=
  if nanosecond = 0 then []
  else if nanosecond % 1000000 = 0 then '.' :: Text.padded 3 (nanosecond / 1000000)
  else if nanosecond % 1000 = 0 then '.' :: Text.padded 6 (nanosecond / 1000)
  else '.' :: Text.padded 9 nanosecond

def yearChars (year : Int) : List Char :=
  let size := year.natAbs
  let digits := if size < 10000 then Text.padded 4 size else Nat.toDigits 10 size
  if year < 0 then '-' :: digits
  else if size < 10000 then digits
  else '+' :: digits

def text (timestamp : Timestamp) : String :=
  let date := timestamp.date
  String.ofList (yearChars date.year ++ '-' :: Text.padded 2 date.month ++
    '-' :: Text.padded 2 date.day ++ 'T' :: Text.padded 2 timestamp.hour ++
    ':' :: Text.padded 2 timestamp.minute ++ ':' :: Text.padded 2 timestamp.second ++
    fractionChars timestamp.nanosecond ++ ['Z'])

/-- The point in time at a local date and time, where local clocks are ahead of UTC by some
minutes, fewer than there are in a day. -/
def ofLocal? (date : Date) (hour minute second nanosecond : Nat) (ahead : Int) :
    Option Timestamp := do
  let minutes := (60 * hour + minute : Int) - ahead
  let date ←
    if minutes < 0 then date.previous? else if minutes < 1440 then some date else date.next?
  let minuteOfDay := (minutes % 1440).toNat
  if valid : isTime (minuteOfDay / 60) (minuteOfDay % 60) second nanosecond = true then
    return ⟨date, minuteOfDay / 60, minuteOfDay % 60, second, nanosecond, valid⟩
  else none

end Timestamp

end Entitlement
