/-
This file holds the days of the calendar: the Gregorian one, reckoned on beyond its beginning,
with a year zero and years before it.
-/

namespace Entitlement

namespace Date

def isLeapYear (year : Int) : Bool :=
  year % 4 == 0 && (year % 100 != 0 || year % 400 == 0)

def daysInMonth (year : Int) (month : Nat) : Nat :=
  match month with
  | 2 => if isLeapYear year then 29 else 28
  | 4 => 30
  | 6 => 30
  | 9 => 30
  | 11 => 30
  | _ => 31

/-- Whether there is such a day in one of the years that are reckoned with. -/
def isValid (year : Int) (month day : Nat) : Bool :=
  -262143 ≤ year && year ≤ 262142 && 1 ≤ month && month ≤ 12 && 1 ≤ day &&
    day ≤ daysInMonth year month

end Date

structure Date where
  year : Int
  month : Nat
  day : Nat
  valid : Date.isValid year month day = true
deriving DecidableEq

namespace Date

instance : Inhabited Date :=
  ⟨{ year := 1970, month := 1, day := 1, valid := by decide }⟩

/-- The day with the given numbers, if there is one. -/
def of? (year : Int) (month day : Nat) : Option Date :=
  if valid : isValid year month day = true then some ⟨year, month, day, valid⟩ else none

/-- The day after, unless no more years are reckoned with. -/
def next? (date : Date) : Option Date :=
  if date.day < daysInMonth date.year date.month then of? date.year date.month (date.day + 1)
  else if date.month < 12 then of? date.year (date.month + 1) 1
  else of? (date.year + 1) 1 1

/-- The day before, unless no more years are reckoned with. -/
def previous? (date : Date) : Option Date :=
  if 1 < date.day then of? date.year date.month (date.day - 1)
  else if 1 < date.month then
    of? date.year (date.month - 1) (daysInMonth date.year (date.month - 1))
  else of? (date.year - 1) 12 31

example : (of? 2024 2 29).bind next? = of? 2024 3 1 := by decide
example : (of? 2100 3 1).bind previous? = of? 2100 2 28 := by decide

end Date

end Entitlement
