/-!
# Date patterns

A date pattern is a row of tokens, each a piece of literal text or a field of a date: year, month,
hour, offset and so on. This module has the tokens and everything that can go wrong between a
pattern, a text and a zone; patterns are compiled in `DatePattern.Compile` and texts are read by
them in `DatePattern.Scan`.
-/

namespace RefFrame

/-- A numeric field of a date or time. -/
inductive DateField
  | year
  | month
  | day
  | hour
  | clockHour
  | minute
  | second
  deriving DecidableEq, Repr

namespace DateField

def name : DateField → String
  | year => "Year"
  | month => "MonthOfYear"
  | day => "DayOfMonth"
  | hour => "HourOfDay"
  | clockHour => "ClockHourOfAmPm"
  | minute => "MinuteOfHour"
  | second => "SecondOfMinute"

/-- The least and the greatest value of a field. -/
def bounds : DateField → Nat × Nat
  | year => (0, 9999)
  | month => (1, 12)
  | day => (1, 31)
  | hour => (0, 23)
  | clockHour => (1, 12)
  | minute => (0, 59)
  | second => (0, 59)

end DateField

/-- One token of a pattern. -/
inductive DateToken
  /-- Text that stands in the date as it is. -/
  | literal (text : List Char)
  /-- A number with a least and a greatest count of digits. -/
  | number (field : DateField) (least greatest : Nat)
  /-- The last two digits of a year from 2000 on. -/
  | shortYear
  /-- The English name of a month in three letters. -/
  | monthName
  /-- A fraction of a second in an exact count of digits. -/
  | fraction (digits : Nat)
  /-- Which half of the day a clock hour belongs to. -/
  | halfDay
  /-- The offset from UTC. -/
  | offset
  deriving DecidableEq, Repr

/-- A compiled pattern. -/
structure DatePattern where
  tokens : List DateToken
  deriving DecidableEq, Repr

/-- Why a text is no pattern. -/
inductive PatternFault
  | empty
  | unclosedQuote (index : Nat)
  | unknownRun (letter : Char) (count : Nat)
  deriving DecidableEq, Repr

def PatternFault.message : PatternFault → String
  | empty => "pattern is empty"
  | unclosedQuote index => "unterminated quoted literal at index " ++ toString index
  | unknownRun letter count =>
    "unsupported pattern letters '" ++ String.ofList (List.replicate count letter) ++ "'"

/-- A value outside of its range: what it is, the range, and the value. -/
structure RangeFault where
  field : String
  low : Int
  high : Int
  value : Nat
  deriving DecidableEq, Repr

def RangeFault.message (f : RangeFault) : String :=
  "Invalid value for " ++ f.field ++ " (valid values " ++ toString f.low ++ " - " ++
    toString f.high ++ "): " ++ toString f.value

/-- Why a pattern has captured too little, or too much, to make a date and time of. -/
inductive PartsFault
  | incompleteDate
  | halfDayWithoutClockHour
  | clockHourWithoutHalfDay
  | twoHours
  deriving DecidableEq, Repr

def PartsFault.message : PartsFault → String
  | incompleteDate => "pattern does not define a complete calendar date"
  | halfDayWithoutClockHour => "AM/PM marker requires a clock hour (h)"
  | clockHourWithoutHalfDay => "clock hour (h) requires an AM/PM marker"
  | twoHours => "pattern defines both hour of day and clock hour"

/-- Why a text is no date under a pattern and a zone. -/
inductive DateFault
  | pattern (fault : PatternFault)
  | range (fault : RangeFault)
  /-- The text does not have the shape of the pattern, from some byte on. -/
  | shape (text : String) (index : Nat)
  | unknownZone (id : String)
  | parts (fault : PartsFault)
  /-- The zone's clocks never showed the local time. -/
  | skipped (localTime : String)
  deriving DecidableEq, Repr

def DateFault.message : DateFault → String
  | pattern fault => fault.message
  | range fault => fault.message
  | shape text index =>
    "Text '" ++ text ++ "' could not be parsed at index " ++ toString index
  | unknownZone id => "Unknown time zone '" ++ id ++ "'"
  | parts fault => fault.message
  | skipped localTime => "local time " ++ localTime ++ " does not exist in time zone"

end RefFrame
