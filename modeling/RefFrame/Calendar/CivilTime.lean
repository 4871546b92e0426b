import RefFrame.Calendar.Date

/-!
# Dates with a time of day

A `CivilTime` is what a calendar and a clock show, in UTC or anywhere else. Its whole seconds are
counted from 1970-01-01T00:00:00 on the same clock; the fraction of the second rides along, since
offsets are whole seconds. The calendar has the years from -262143 to 262142.
-/

namespace RefFrame

/-- A time of day; the fraction of the second is in nanoseconds. -/
structure TimeOfDay where
  hour : Nat
  minute : Nat
  second : Nat
  nano : Nat
  deriving DecidableEq, Repr

namespace TimeOfDay

def midnight : TimeOfDay := ⟨0, 0, 0, 0⟩

/-- A time that a clock shows. -/
def IsValid (t : TimeOfDay) : Prop :=
  t.hour < 24 ∧ t.minute < 60 ∧ t.second < 60 ∧ t.nano < 1_000_000_000

instance (t : TimeOfDay) : Decidable t.IsValid :=
  inferInstanceAs (Decidable (_ ∧ _))

def secondOfDay (t : TimeOfDay) : Nat :=
  t.hour * 3600 + t.minute * 60 + t.second

def ofSecondOfDay (s nano : Nat) : TimeOfDay :=
  ⟨s / 3600, s / 60 % 60, s % 60, nano⟩

def text (t : TimeOfDay) : List Char :=
  Text.paddedDigits 2 t.hour ++ ':' :: Text.paddedDigits 2 t.minute ++
    ':' :: Text.paddedDigits 2 t.second

/-- The fraction of the second cut to milliseconds, with its point. -/
def milliText (t : TimeOfDay) : List Char :=
  '.' :: Text.paddedDigits 3 (t.nano / 1_000_000)

/-- The fraction of the second with its point, in the least of three, six and nine digits that is
exact; nothing for a whole second. -/
def fractionText (t : TimeOfDay) : List Char :=
  if t.nano = 0 then []
  else if t.nano % 1_000_000 = 0 then '.' :: Text.paddedDigits 3 (t.nano / 1_000_000)
  else if t.nano % 1_000 = 0 then '.' :: Text.paddedDigits 6 (t.nano / 1_000)
  else '.' :: Text.paddedDigits 9 t.nano

end TimeOfDay

/-- A date and a time of day. -/
structure CivilTime where
  date : Date
  time : TimeOfDay
  deriving DecidableEq, Repr

namespace CivilTime

/-- A date and a time that exist. -/
def IsValid (c : CivilTime) : Prop :=
  c.date.IsValid ∧ c.time.IsValid

/-- The whole seconds since the beginning of 1970. -/
def seconds (c : CivilTime) : Int :=
  c.date.dayNumber * 86400 + c.time.secondOfDay

/-- The civil time a number of whole seconds after the beginning of 1970. -/
def ofSeconds (s : Int) (nano : Nat) : CivilTime where
  date := Date.ofDayNumber (s / 86400)
  time := TimeOfDay.ofSecondOfDay (s % 86400).toNat nano

def first : CivilTime := ⟨⟨-262143, 1, 1⟩, .midnight⟩

def last : CivilTime := ⟨⟨262142, 12, 31⟩, ⟨23, 59, 59, 0⟩⟩

/-- Whether the calendar reaches a number of seconds after the beginning of 1970. -/
def inCalendar (s : Int) : Bool :=
  first.seconds ≤ s && s ≤ last.seconds

/-- Date and time as one word for UTC, in whole seconds. -/
def utcText (c : CivilTime) : List Char :=
  c.date.text ++ 'T' :: c.time.text ++ ['Z']

/-- Date and time as one word for UTC, with milliseconds. -/
def utcMilliText (c : CivilTime) : List Char :=
  c.date.text ++ 'T' :: c.time.text ++ c.time.milliText ++ ['Z']

/-- Date and time with a space between them and as much of the fraction as is needed. -/
def plainText (c : CivilTime) : List Char :=
  c.date.text ++ ' ' :: c.time.text ++ c.time.fractionText

end CivilTime
end RefFrame
