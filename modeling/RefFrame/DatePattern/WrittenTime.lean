import RefFrame.Calendar.CivilTime
import RefFrame.DatePattern.Scan

/-!
# From captured parts to a date and time

What a pattern has captured is checked against the ranges of the fields and put together: a date,
which has to be complete, a time of day if any part of one is there, and an offset if one is
written. Reading a text checks its shape first, the ranges next, and completeness last.
-/

namespace RefFrame

/-- A date and time as a text has it. -/
structure WrittenTime where
  date : Date
  time : Option TimeOfDay
  offset : Option Int
  deriving DecidableEq, Repr

/-- The civil time of a written time; a date alone means its midnight. -/
def WrittenTime.civil (w : WrittenTime) : CivilTime :=
  ⟨w.date, w.time.getD .midnight⟩

namespace Captured

/-- Whether a number is a value of a field, and the fault if it is not. -/
def checkRange (f : DateField) (n : Nat) : Except DateFault Unit :=
  if f.bounds.1 ≤ n ∧ n ≤ f.bounds.2 then .ok ()
  else .error (.range ⟨f.name, f.bounds.1, f.bounds.2, n⟩)

/-- Every captured number is a value of its field. The first that is not decides. -/
def checkRanges (c : Captured) : Except DateFault Unit :=
  c.ranged.forM fun (f, n) => checkRange f n

/-- The date, which needs all of its three parts and has to exist. -/
def date (c : Captured) : Except DateFault Date :=
  match c.year, c.month, c.day with
  | some y, some m, some d =>
    let date : Date := ⟨y, m, d⟩
    if date.IsValid then .ok date
    else .error (.range ⟨DateField.day.name, 1, Date.daysInMonth y m, d⟩)
  | _, _, _ => .error (.parts .incompleteDate)

/-- The hour of the day, from an hour or from a clock hour with its half of the day. -/
def hourOfDay (c : Captured) : Except DateFault (Option Nat) :=
  match c.hour, c.clockHour, c.afternoon with
  | some hour, none, none => .ok (some hour)
  -- Twelve o'clock begins its half of the day.
  | none, some clock, some pm => .ok (some (clock % 12 + if pm then 12 else 0))
  | none, none, none => .ok none
  | some _, none, some _ => .error (.parts .halfDayWithoutClockHour)
  | none, none, some _ => .error (.parts .halfDayWithoutClockHour)
  | none, some _, none => .error (.parts .clockHourWithoutHalfDay)
  | some _, some _, _ => .error (.parts .twoHours)

def time (c : Captured) (hour : Option Nat) : Option TimeOfDay :=
  if hour.isSome || c.minute.isSome || c.second.isSome || c.nano.isSome then
    some ⟨hour.getD 0, c.minute.getD 0, c.second.getD 0, c.nano.getD 0⟩
  else none

def written (c : Captured) : Except DateFault WrittenTime := do
  let date ← c.date
  let hour ← c.hourOfDay
  return ⟨date, c.time hour, c.offset⟩

end Captured

namespace DatePattern

def read (p : DatePattern) (text : String) : Except DateFault WrittenTime := do
  let c ← p.scan text
  c.checkRanges
  c.written

end DatePattern
end RefFrame
