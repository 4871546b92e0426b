import RefFrame.Text.Ascii

/-!
# Calendar dates

Dates of the proleptic Gregorian calendar, which has a year 0 and negative years before it. Dates
and day numbers are two views of one line of days: `Date.dayNumber` counts the days since
1970-01-01, and `Date.ofDayNumber` is its inverse on the dates that exist.
-/

namespace RefFrame

/-- A year, a month from 1 and a day from 1. -/
structure Date where
  year : Int
  month : Nat
  day : Nat
  deriving DecidableEq, Repr

namespace Date

/-- Whether a year has a 29 February. -/
def isLeapYear (year : Int) : Bool :=
  year % 4 == 0 && (!(year % 100 == 0) || year % 400 == 0)

def monthLengths (leap : Bool) : List Nat :=
  [31, if leap then 29 else 28, 31, 30, 31, 30, 31, 31, 30, 31, 30, 31]

def daysInMonth (year : Int) (month : Nat) : Nat :=
  (monthLengths (isLeapYear year)).getD (month - 1) 0

def IsValid (d : Date) : Prop :=
  1 ≤ d.month ∧ d.month ≤ 12 ∧ 1 ≤ d.day ∧ d.day ≤ daysInMonth d.year d.month

instance (d : Date) : Decidable d.IsValid :=
  inferInstanceAs (Decidable (_ ∧ _))

/-- The days from the first day of year 0 to the first day of a year. -/
def daysBeforeYear (year : Int) : Int :=
  -- Division rounds down, which counts the leap years before year 0 as negative.
  365 * year + (year + 3) / 4 - (year + 99) / 100 + (year + 399) / 400

def daysBeforeMonth (year : Int) (month : Nat) : Nat :=
  ((monthLengths (isLeapYear year)).take (month - 1)).foldr (· + ·) 0

/-- The days from the first day of year 0 to 1970-01-01. -/
def epoch : Int := 719528

/-- The days from 1970-01-01 to a date. -/
def dayNumber (d : Date) : Int :=
  daysBeforeYear d.year + daysBeforeMonth d.year d.month + d.day - 1 - epoch

/-- The year that a day belongs to, counted from the first day of year 0: the mean length of a year
gives it up to one. -/
def yearOf (n : Int) : Int :=
  -- Four hundred years have 146097 days.
  let y := 400 * n / 146097
  if daysBeforeYear (y + 1) ≤ n then y + 1 else if daysBeforeYear y ≤ n then y else y - 1

/-- The month and the day for a day of the year counted from 0, given the lengths of the months from
month `m` on. -/
def monthAndDay (m : Nat) : List Nat → Nat → Nat × Nat
  | [], n => (m, n + 1)
  | length :: lengths, n => if n < length then (m, n + 1) else monthAndDay (m + 1) lengths (n - length)

/-- The date a number of days after 1970-01-01. -/
def ofDayNumber (n : Int) : Date :=
  let year := yearOf (n + epoch)
  let (month, day) :=
    monthAndDay 1 (monthLengths (isLeapYear year)) (n + epoch - daysBeforeYear year).toNat
  { year, month, day }

/-- A year in four digits; a year that needs more, or lies before year 0, has a sign as well. -/
def yearText (year : Int) : List Char :=
  let digits := Text.paddedDigits 4 year.natAbs
  if year < 0 then '-' :: digits else if 9999 < year then '+' :: digits else digits

def text (d : Date) : List Char :=
  yearText d.year ++ '-' :: Text.paddedDigits 2 d.month ++ '-' :: Text.paddedDigits 2 d.day

end Date
end RefFrame
