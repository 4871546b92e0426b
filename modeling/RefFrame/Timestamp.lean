import RefFrame.DatePattern.Compile
import RefFrame.DatePattern.WrittenTime
import RefFrame.Reference.TimeFrame
import RefFrame.Zone.Basic

/-!
# Bringing dates to the canonical form

A text is read under a frame and written canonically: a date as the calendar date it names, a point
in time in UTC. The offset of a point in time is the one in its text, else that of the frame's zone,
else none at all. The zone of a frame has to be known even where it is not used.

Looking up a torn zone ends in a panic, so the fault of such a zone is found here but seen by nobody
(`DateFault.panics`).
-/

namespace RefFrame

/-- Instead of answering with the fault, the program panics. -/
def DateFault.panics : DateFault → Bool
  | unknownZone id => Zone.isTorn id.toList
  | _ => false

namespace TimeFrame

variable [ZoneLibrary]

/-- The zone of a frame, which has to be known if there is one. -/
def resolveZone : Option String → Except DateFault (Option Zone)
  | none => .ok none
  | some id =>
    match Zone.ofId? id with
    | some z => .ok (some z)
    | none => .error (.unknownZone (Text.trim id))

/-- The first instant at which a written time holds; none if clocks skipped it, or if the calendar
does not have it. -/
def instant? (w : WrittenTime) (zone : Option Zone) : Option Int :=
  match w.offset, zone with
  | some offset, _ => (Zone.fixed offset).earliest? w.civil.seconds
  | none, some z => z.earliest? w.civil.seconds
  | none, none => some w.civil.seconds

def canonicalText (kind : TimeKind) (w : WrittenTime) (zone : Option Zone) :
    Except DateFault (List Char) :=
  match kind with
  | .date => .ok w.date.text
  | .dateTime =>
    match instant? w zone with
    | some u => .ok (CivilTime.ofSeconds u w.civil.time.nano).utcMilliText
    | none => .error (.skipped (String.ofList w.civil.plainText))

/-- The canonical text of a date or point in time that is written under the frame. -/
def convert (f : TimeFrame) (text : String) : Except DateFault String := do
  let pattern ← (DatePattern.compile f.format).mapError DateFault.pattern
  let w ← pattern.read text
  -- An unknown zone is a fault even for dates and for texts with an offset of their own.
  let zone ← resolveZone f.zone
  return String.ofList (← canonicalText f.kind w zone)

/-- What becomes of a text that is to be converted; nothing in a panic. -/
def convert? (f : TimeFrame) (text : String) : Option (Except DateFault String) :=
  match f.convert text with
  | .error fault => if fault.panics then none else some (.error fault)
  | done => some done

end TimeFrame
end RefFrame
