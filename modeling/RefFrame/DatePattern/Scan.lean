import RefFrame.DatePattern.Basic
import RefFrame.Text.Ascii

/-!
# Reading texts by a pattern

The tokens of a pattern read a text from left to right, each as much as it can, and each yields a
datum. A field that a pattern has twice keeps what its last token read.

A text whose shape does not fit is refused with the number of bytes read before the token that
failed. An offset that is too big is refused on the spot; the other fields are checked afterwards.
-/

namespace RefFrame

/-- What the text of a token stands for. -/
inductive Datum
  | nothing
  | number (field : DateField) (n : Nat)
  | nano (n : Nat)
  | afternoon (b : Bool)
  | offset (seconds : Int)
  deriving DecidableEq, Repr

/-- What has been captured of a date. -/
structure Captured where
  year : Option Nat := none
  month : Option Nat := none
  day : Option Nat := none
  hour : Option Nat := none
  clockHour : Option Nat := none
  minute : Option Nat := none
  second : Option Nat := none
  nano : Option Nat := none
  afternoon : Option Bool := none
  offset : Option Int := none
  deriving DecidableEq, Repr

namespace Captured

/-- Enters a datum in place of an earlier one. -/
def put (c : Captured) : Datum → Captured
  | .nothing => c
  | .number .year n => { c with year := some n }
  | .number .month n => { c with month := some n }
  | .number .day n => { c with day := some n }
  | .number .hour n => { c with hour := some n }
  | .number .clockHour n => { c with clockHour := some n }
  | .number .minute n => { c with minute := some n }
  | .number .second n => { c with second := some n }
  | .nano n => { c with nano := some n }
  | .afternoon b => { c with afternoon := some b }
  | .offset s => { c with offset := some s }

def ofData (ds : List Datum) : Captured :=
  ds.foldl put {}

/-- The numbers that have been captured for the fields with a range, in the order of checking. -/
def ranged (c : Captured) : List (DateField × Nat) :=
  [(.month, c.month), (.day, c.day), (.hour, c.hour), (.clockHour, c.clockHour),
    (.minute, c.minute), (.second, c.second)].filterMap fun (f, v) => v.map fun n => (f, n)

end Captured

namespace DatePattern

/-- Why a token cannot read a text. -/
inductive Misfit
  | shape
  | range (fault : RangeFault)
  deriving DecidableEq, Repr

/-- Reads digits, at least and at most so many. -/
def readDigits (least greatest : Nat) (cs : List Char) : Option (Nat × List Char) :=
  let digits := (cs.take greatest).takeWhile Char.isDigit
  if digits.length < least then none
  else some (Text.digitsValue digits, cs.drop digits.length)

def monthNames : List (List Char) :=
  ["jan", "feb", "mar", "apr", "may", "jun", "jul", "aug", "sep", "oct", "nov", "dec"].map
    String.toList

/-- The number of a month, from 1, by its name in any case. -/
def monthOfName? (name : List Char) : Option Nat :=
  (monthNames.findIdx? (Text.sameLetters name)).map (· + 1)

/-- Reads minutes of an offset: two digits after a colon, which has to have them, or two digits
right away, or nothing. -/
def readOffsetMinutes : List Char → Option (Nat × List Char)
  | ':' :: cs => readDigits 2 2 cs
  | cs => some ((readDigits 2 2 cs).getD (0, cs))

/-- Reads an offset: `Z`, or a sign, two digits of hours, and minutes. At most eighteen hours and
fifty-nine minutes are allowed. -/
def readOffset : List Char → Except Misfit (Int × List Char)
  | [] => .error .shape
  | c :: cs =>
    if c = 'Z' ∨ c = 'z' then .ok (0, cs)
    else if c = '+' ∨ c = '-' then
      match readDigits 2 2 cs with
      | none => .error .shape
      | some (hours, afterHours) =>
        match readOffsetMinutes afterHours with
        | none => .error .shape
        | some (minutes, rest) =>
          -- The shape is complete, so from here on only the values can be wrong.
          if 18 < hours then .error (.range ⟨"OffsetHours", -18, 18, hours⟩)
          else if 59 < minutes then .error (.range ⟨"OffsetMinutes", 0, 59, minutes⟩)
          else
            let size : Int := hours * 3600 + minutes * 60
            .ok (if c = '-' then -size else size, rest)
    else .error .shape

/-- Reads the text of one token from the front of a text. -/
def readToken (t : DateToken) (cs : List Char) : Except Misfit (Datum × List Char) :=
  match t with
  | .literal text =>
    if text.isPrefixOf cs then .ok (.nothing, cs.drop text.length) else .error .shape
  | .number field least greatest =>
    match readDigits least greatest cs with
    | some (n, rest) => .ok (.number field n, rest)
    | none => .error .shape
  | .shortYear =>
    match readDigits 2 2 cs with
    | some (n, rest) => .ok (.number .year (2000 + n), rest)
    | none => .error .shape
  | .monthName =>
    match monthOfName? (cs.take 3) with
    | some n => .ok (.number .month n, cs.drop 3)
    | none => .error .shape
  | .fraction digits =>
    match readDigits digits digits cs with
    -- The digits are the first ones of nine.
    | some (n, rest) => .ok (.nano (n * Nat.pow 10 (9 - digits)), rest)
    | none => .error .shape
  | .halfDay =>
    if Text.sameLetters (cs.take 2) ['a', 'm'] then .ok (.afternoon false, cs.drop 2)
    else if Text.sameLetters (cs.take 2) ['p', 'm'] then .ok (.afternoon true, cs.drop 2)
    else .error .shape
  | .offset =>
    match readOffset cs with
    | .ok (seconds, rest) => .ok (.offset seconds, rest)
    | .error e => .error e

/-- A misfit where `rest` is left of a text. -/
def Misfit.fault (text rest : List Char) : Misfit → DateFault
  | .shape => .shape (String.ofList text) (Text.byteLength text - Text.byteLength rest)
  | .range f => .range f

/-- Reads what is left of a text by the tokens that are left, to its end. -/
def scanRest (text : List Char) : List DateToken → List Char → Except DateFault (List Datum)
  | [], [] => .ok []
  | [], rest => .error (Misfit.shape.fault text rest)
  | t :: ts, rest =>
    match readToken t rest with
    | .error e => .error (e.fault text rest)
    | .ok (d, rest') =>
      match scanRest text ts rest' with
      | .error e => .error e
      | .ok ds => .ok (d :: ds)

def scan (p : DatePattern) (text : String) : Except DateFault Captured :=
  match scanRest text.toList p.tokens text.toList with
  | .error e => .error e
  | .ok ds => .ok (Captured.ofData ds)

end DatePattern
end RefFrame
