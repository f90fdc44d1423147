import Scorebook.Text.Numeral

/-!
# Calendar dates

A date of the proleptic Gregorian calendar.  A `Date` holds a real day by construction; years run
from `minYear` to `maxYear`.  A year from 0 to 9999 is written with four digits, any other with a
sign and at least four.
-/

namespace Scorebook

def minYear : Int := -262143
def maxYear : Int := 262142

def isLeapYear (year : Int) : Bool :=
  year % 4 == 0 && (year % 100 != 0 || year % 400 == 0)

/-- The number of days in a month; zero for a month that does not exist. -/
def daysInMonth (year : Int) (month : Nat) : Nat :=
  match month with
  | 1 | 3 | 5 | 7 | 8 | 10 | 12 => 31
  | 4 | 6 | 9 | 11 => 30
  | 2 => if isLeapYear year then 29 else 28
  | _ => 0

/-- Whether the three numbers name a day of the calendar. -/
def isRealDay (year : Int) (month day : Nat) : Bool :=
  minYear ≤ year && year ≤ maxYear && 1 ≤ day && day ≤ daysInMonth year month

structure Date where
  year : Int
  month : Nat
  day : Nat
  real : isRealDay year month day = true
deriving DecidableEq

namespace Date
open Text

/-- The date with the given numbers, when there is one. -/
def ofNumbers? (year : Int) (month day : Nat) : Option Date :=
  if h : isRealDay year month day = true then some ⟨year, month, day, h⟩ else none

def epoch : Date := ⟨1970, 1, 1, by decide⟩

instance : Inhabited Date := ⟨epoch⟩

def yearText (year : Int) : List Char :=
  if 0 ≤ year ∧ year ≤ 9999 then paddedDigits 4 year.toNat
  else (if year < 0 then '-' else '+') :: paddedDigits 4 year.natAbs

/-- The date as year, month and day without separators. -/
def compact (d : Date) : List Char :=
  yearText d.year ++ paddedDigits 2 d.month ++ paddedDigits 2 d.day

/-- The date as year, month and day joined by hyphens. -/
def isoChars (d : Date) : List Char :=
  yearText d.year ++ '-' :: paddedDigits 2 d.month ++ '-' :: paddedDigits 2 d.day

def iso (d : Date) : String := String.ofList d.isoChars

/-- The day before, unless it lies before the first year. -/
def yesterday? (d : Date) : Option Date :=
  if d.day > 1 then ofNumbers? d.year d.month (d.day - 1)
  else if d.month > 1 then ofNumbers? d.year (d.month - 1) (daysInMonth d.year (d.month - 1))
  else ofNumbers? (d.year - 1) 12 31

/-- The day after, unless it lies after the last year. -/
def tomorrow? (d : Date) : Option Date :=
  if d.day < daysInMonth d.year d.month then ofNumbers? d.year d.month (d.day + 1)
  else if d.month < 12 then ofNumbers? d.year (d.month + 1) 1
  else ofNumbers? (d.year + 1) 1 1

end Date

end Scorebook
