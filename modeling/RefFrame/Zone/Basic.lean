import RefFrame.Calendar.CivilTime
import RefFrame.Text.Ascii
import RefFrame.Text.Blank
import RefFrame.Zone.Library

/-!
# Zone identifiers

A zone is a fixed offset or a named place. Identifiers are `UTC` and its like, offsets such as
`+05:30` or `UTC-3`, and the names of places. An identifier that begins like an offset is never
looked up as a name.

An offset of four bytes is cut in the middle. Where a character lies across the middle there is
nothing to cut: the identifier is torn, and whoever resolves it does not come back.
-/

namespace RefFrame

/-- A zone: a fixed offset in seconds east, or a place with a timeline. -/
inductive Zone
  | fixed (offset : Int)
  | named (name : String) (timeline : Timeline)
  deriving DecidableEq, Repr

namespace Zone

/-- The names of UTC, in small letters. -/
def utcNames : List (List Char) :=
  ["utc", "gmt", "z", "ut"].map String.toList

/-- Drops `UTC` or `GMT` in any case from the front. -/
def withoutUtc (id : List Char) : List Char :=
  if Text.sameLetters (id.take 3) "utc".toList || Text.sameLetters (id.take 3) "gmt".toList then
    id.drop 3
  else id

/-- One or two digits and nothing else. -/
def shortNumber? (cs : List Char) : Option Nat :=
  if cs ≠ [] ∧ cs.length ≤ 2 ∧ cs.all Char.isDigit then some (Text.digitsValue cs) else none

/-- Splits an offset without its sign into hours and minutes: at a colon, or in the middle of four
bytes, which may be inside of a character; otherwise all of it is hours. -/
def splitOffset? (cs : List Char) : Option (List Char × List Char) :=
  if ':' ∈ cs then some (cs.takeWhile (· ≠ ':'), (cs.dropWhile (· ≠ ':')).drop 1)
  else if Text.byteLength cs = 4 then Text.cutAt? 2 cs
  else some (cs, ['0'])

/-- The size of an offset without its sign: at most eighteen hours and fifty-nine minutes. -/
def offsetSize? (cs : List Char) : Option Nat := do
  let (hours, minutes) ← splitOffset? cs
  let hours ← shortNumber? hours
  let minutes ← shortNumber? minutes
  if hours ≤ 18 ∧ minutes ≤ 59 then some (hours * 3600 + minutes * 60) else none

/-- Whether an identifier without blanks around it is an offset that cannot be split. -/
def isTorn (id : List Char) : Bool :=
  match withoutUtc id with
  | '+' :: size | '-' :: size => (splitOffset? size).isNone
  | _ => false

/-- The zone of an identifier without blanks around it, where places are looked up among given ones. -/
def ofTrimmedAmong? (places : List (String × Timeline)) (id : List Char) : Option Zone :=
  if utcNames.any (Text.sameLetters id) then some (.fixed 0)
  else
    -- A sign decides: what follows it is an offset or nothing.
    match withoutUtc id with
    | '+' :: size => (offsetSize? size).map fun n => .fixed n
    | '-' :: size => (offsetSize? size).map fun n => .fixed (-n)
    | _ =>
      let name := String.ofList id
      (places.lookup name).map (.named name)

variable [ZoneLibrary]

def ofTrimmed? (id : List Char) : Option Zone :=
  ofTrimmedAmong? ZoneLibrary.places id

def ofId? (id : String) : Option Zone :=
  ofTrimmed? (Text.trimmed id.toList)

/-- The first instant that shows a local time in the zone, as far as the calendar goes. -/
def earliest? : Zone → Int → Option Int
  | fixed offset, l => (some (l - offset)).filter CivilTime.inCalendar
  | named _ timeline, l => (ZoneLibrary.localTimes timeline l).earliest?

end Zone
end RefFrame
